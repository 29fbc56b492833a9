import HazardStore.Text.Blank
import Mathlib.Data.List.TakeWhile
/-!
Trimming. It takes the blanks at the two ends of a text and nothing else, so that a text of blanks
leaves nothing, and a text that begins and ends solid comes back from between any blanks.
-/

namespace HazardStore.Text

/-- Nothing but blanks is trimmed. -/
theorem trim_between (text : List Char) :
    ∃ before after, text = before ++ trim text ++ after ∧
      (∀ c ∈ before, isBlank c = true) ∧ ∀ c ∈ after, isBlank c = true := by
  have front : text.takeWhile isBlank ++ dropBlanks text = text :=
    List.takeWhile_append_dropWhile
  have back : dropBlanks text =
      trim text ++ ((dropBlanks text).reverse.takeWhile isBlank).reverse := by
    have split : (dropBlanks text).reverse.takeWhile isBlank ++
        dropBlanks (dropBlanks text).reverse = (dropBlanks text).reverse :=
      List.takeWhile_append_dropWhile
    have reversed := congrArg List.reverse split
    rw [List.reverse_append, List.reverse_reverse] at reversed
    exact reversed.symm
  refine ⟨text.takeWhile isBlank, ((dropBlanks text).reverse.takeWhile isBlank).reverse, ?_, ?_, ?_⟩
  · rw [List.append_assoc, ← back]
    exact front.symm
  · exact fun c member => List.mem_takeWhile_imp member
  · exact fun c member => List.mem_takeWhile_imp (List.mem_reverse.1 member)

theorem mem_trim (text : List Char) (c : Char) (member : c ∈ text) (solid : isBlank c = false) :
    c ∈ trim text := by
  obtain ⟨before, after, same, blankBefore, blankAfter⟩ := trim_between text
  rw [same, List.mem_append, List.mem_append] at member
  rcases member with (first | inside) | last
  · rw [blankBefore c first] at solid
    cases solid
  · exact inside
  · rw [blankAfter c last] at solid
    cases solid

theorem trim_eq_nil (text : List Char) (blank : ∀ c ∈ text, isBlank c = true) : trim text = [] := by
  have nothing : dropBlanks text = [] := List.dropWhile_eq_nil_iff.2 blank
  unfold trim
  rw [nothing]
  rfl

theorem trim_ne_nil_iff (text : List Char) : trim text ≠ [] ↔ ∃ c ∈ text, isBlank c = false := by
  constructor
  · intro something
    apply Classical.byContradiction
    intro noSolid
    apply something
    apply trim_eq_nil
    intro c member
    cases solid : isBlank c with
    | true => rfl
    | false => exact absurd ⟨c, member, solid⟩ noSolid
  · intro something
    obtain ⟨c, member, solid⟩ := something
    exact List.ne_nil_of_mem (mem_trim text c member solid)

theorem trim_surrounded (before text after : List Char) (nonempty : text ≠ [])
    (blankBefore : ∀ c ∈ before, isBlank c = true) (blankAfter : ∀ c ∈ after, isBlank c = true)
    (first : ∀ c, text.head? = some c → isBlank c = false)
    (last : ∀ c, text.getLast? = some c → isBlank c = false) :
    trim (before ++ text ++ after) = text := by
  have front : dropBlanks (before ++ text ++ after) = text ++ after := by
    unfold dropBlanks
    rw [List.append_assoc, List.dropWhile_append_of_pos blankBefore]
    cases text with
    | nil => exact absurd rfl nonempty
    | cons head tail => simp [first head rfl]
  have back : dropBlanks (text ++ after).reverse = text.reverse := by
    unfold dropBlanks
    rw [List.reverse_append, List.dropWhile_append_of_pos
      (fun c member => blankAfter c (List.mem_reverse.1 member))]
    cases reversed : text.reverse with
    | nil => exact absurd (List.reverse_eq_nil_iff.1 reversed) nonempty
    | cons head tail =>
        have atEnd : text.getLast? = some head := by
          rw [List.getLast?_eq_head?_reverse, reversed]
          rfl
        simp [last head atEnd]
  unfold trim
  rw [front, back, List.reverse_reverse]

end HazardStore.Text
