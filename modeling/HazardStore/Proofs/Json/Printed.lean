import HazardStore.Json.Document
import HazardStore.Proofs.Text.Shown
/-!
What a printed document is made of: its tokens, one after the other, with nothing but the layout
between them. So a document that is printed in full loses no element, key or value, and adds none.
-/

namespace HazardStore.Json

open Text

/-- The characters of the layout, outside quotes. -/
def Layout (c : Char) : Prop :=
  c = ' ' ∨ c = '\n'

mutual

/-- The tokens of a document; brackets, colons and commas are tokens of their own. -/
def Document.tokens : Document → List String
  | .null => ["null"]
  | .boolean value => [if value then "true" else "false"]
  | .number value => [toString value]
  | .text value => [quoted value]
  | .list elements => "[" :: [","].intercalate (tokensOfElements elements) ++ ["]"]
  | .record fields => "\x7b" :: [","].intercalate (tokensOfFields fields) ++ ["\x7d"]

def tokensOfElements : List Document → List (List String)
  | [] => []
  | element :: others => element.tokens :: tokensOfElements others

def tokensOfFields : List (String × Document) → List (List String)
  | [] => []
  | (key, value) :: others => (quoted key :: ":" :: value.tokens) :: tokensOfFields others

end

theorem layout_line (level : Nat) : ∀ c ∈ ("\n" ++ indentation level).toList, Layout c := by
  intro c member
  rw [String.toList_append, List.mem_append] at member
  rcases member with feed | blank
  · exact Or.inr (List.mem_singleton.1 feed)
  · rw [indentation, String.toList_ofList] at blank
    exact Or.inl (List.eq_of_mem_replicate blank)

theorem bracketed_shows (level : Nat) (opening closing : String) {lists : List (List String)}
    {elements : List String} (each : List.Forall₂ (Shows Layout) lists elements) :
    Shows Layout (opening :: [","].intercalate lists ++ [closing])
      (bracketed level opening closing elements) := by
  unfold bracketed
  cases each with
  | nil => exact (Shows.self Layout opening).part closing
  | @cons list element lists elements here rest =>
      rw [if_neg (List.cons_ne_nil _ _)]
      have comma : Shows Layout [","] ("," ++ ("\n" ++ indentation (level + 1))) :=
        (Shows.self Layout ",").fill (layout_line (level + 1))
      have opened : Shows Layout [opening] (opening ++ ("\n" ++ indentation (level + 1))) :=
        (Shows.self Layout opening).fill (layout_line (level + 1))
      have filled := opened.append (Shows.intercalate comma (.cons here rest))
      have closed := (filled.fill (layout_line level)).part closing
      rwa [← String.append_assoc] at closed

mutual

theorem Document.pretty_shows (level : Nat) :
    (document : Document) → Shows Layout document.tokens (document.pretty level)
  | .null => Shows.self Layout _
  | .boolean _ => Shows.self Layout _
  | .number _ => Shows.self Layout _
  | .text _ => Shows.self Layout _
  | .list elements => bracketed_shows level _ _ (prettyElements_show (level + 1) elements)
  | .record fields => bracketed_shows level _ _ (prettyFields_show (level + 1) fields)

theorem prettyElements_show (level : Nat) : (elements : List Document) →
    List.Forall₂ (Shows Layout) (tokensOfElements elements) (prettyElements level elements)
  | [] => .nil
  | element :: others => .cons (element.pretty_shows level) (prettyElements_show level others)

theorem prettyFields_show (level : Nat) : (fields : List (String × Document)) →
    List.Forall₂ (Shows Layout) (tokensOfFields fields) (prettyFields level fields)
  | [] => .nil
  | (key, value) :: others => by
      refine .cons ?_ (prettyFields_show level others)
      have colon : Shows Layout [":"] (":" ++ " ") :=
        (Shows.self Layout ":").fill (fun _ blank => Or.inl (List.mem_singleton.1 blank))
      have spelled : ":" ++ " " = ": " := by decide
      rw [spelled] at colon
      exact ((Shows.self Layout (quoted key)).append colon).append (value.pretty_shows level)

end

end HazardStore.Json
