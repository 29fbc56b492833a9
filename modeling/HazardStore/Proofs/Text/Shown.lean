import Mathlib.Data.List.Forall2
/-!
Texts that show what they are made of. The parts stand in the text one after the other, and around
them stand characters of one kind only.
-/

namespace HazardStore.Text

/-- The parts stand in the text in their order, with nothing but fillers around them. -/
def Shows (filler : Char → Prop) : List String → String → Prop
  | [], text => ∀ c ∈ text.toList, filler c
  | part :: parts, text => ∃ before after, (∀ c ∈ before.toList, filler c) ∧
      text = before ++ part ++ after ∧ Shows filler parts after

namespace Shows

variable {filler : Char → Prop} {parts others : List String} {text further : String}

theorem self (filler : Char → Prop) (part : String) : Shows filler [part] part := by
  refine ⟨"", "", ?_, ?_, ?_⟩
  · intro c member
    cases member
  · rw [String.empty_append, String.append_empty]
  · intro c member
    cases member

theorem prepend (fills : ∀ c ∈ text.toList, filler c) (shows : Shows filler parts further) :
    Shows filler parts (text ++ further) := by
  cases parts with
  | nil =>
      intro c member
      rw [String.toList_append, List.mem_append] at member
      exact member.elim (fills c) (shows c)
  | cons part parts =>
      obtain ⟨before, after, around, same, rest⟩ := shows
      refine ⟨text ++ before, after, ?_, ?_, rest⟩
      · intro c member
        rw [String.toList_append, List.mem_append] at member
        exact member.elim (fills c) (around c)
      · rw [same, String.append_assoc, String.append_assoc, String.append_assoc]

theorem append (first : Shows filler parts text) (second : Shows filler others further) :
    Shows filler (parts ++ others) (text ++ further) := by
  induction parts generalizing text with
  | nil => exact prepend first second
  | cons part parts ih =>
      obtain ⟨before, after, around, same, rest⟩ := first
      refine ⟨before, after ++ further, around, ?_, ih rest⟩
      rw [same, String.append_assoc]

theorem part (shows : Shows filler parts text) (part : String) :
    Shows filler (parts ++ [part]) (text ++ part) :=
  shows.append (self filler part)

theorem fill (shows : Shows filler parts text) (fills : ∀ c ∈ further.toList, filler c) :
    Shows filler parts (text ++ further) := by
  have filled : Shows filler (parts ++ []) (text ++ further) := shows.append fills
  rwa [List.append_nil] at filled

/-- Texts in a row show their parts in a row, with the parts of what separates them between. -/
theorem intercalate {separator : List String} {between : String} {texts : List String}
    {lists : List (List String)} (separates : Shows filler separator between)
    (each : List.Forall₂ (Shows filler) lists texts) :
    Shows filler (separator.intercalate lists) (between.intercalate texts) := by
  induction each with
  | nil =>
      intro c member
      cases member
  | @cons list text lists texts here rest ih =>
      cases rest with
      | nil =>
          rw [String.intercalate_singleton, List.intercalate_singleton]
          exact here
      | cons =>
          rw [String.intercalate_cons_cons, List.intercalate_cons_cons]
          exact (here.append separates).append ih

end Shows

/-- The parts stand in the text in their order, whatever is around them. -/
def Carries (parts : List String) (text : String) : Prop :=
  Shows (fun _ => True) parts text

namespace Carries

variable {parts others : List String} {text further : String}

theorem plain (text : String) : Carries [] text :=
  fun _ _ => trivial

theorem self (part : String) : Carries [part] part :=
  Shows.self _ part

theorem append (first : Carries parts text) (second : Carries others further) :
    Carries (parts ++ others) (text ++ further) :=
  Shows.append first second

theorem part (carries : Carries parts text) (part : String) : Carries (parts ++ [part]) (text ++ part) :=
  Shows.part carries part

theorem followed (carries : Carries parts text) (further : String) : Carries parts (text ++ further) :=
  Shows.fill carries (fun _ _ => trivial)

theorem intercalate (between : String) (texts : List String) :
    Carries texts (between.intercalate texts) := by
  induction texts with
  | nil => exact plain _
  | cons text others ih =>
      cases others with
      | nil =>
          rw [String.intercalate_singleton]
          exact self text
      | cons =>
          rw [String.intercalate_cons_cons]
          exact ((self text).followed between).append ih

end Carries

end HazardStore.Text
