import SqlFilter.Text.Delimiter

/-!
# Removal in any order

`Delimiter.Removes` takes out one occurrence of a delimiter, anywhere in the text, and
`Delimiter.RemovesAll` goes on until the text is free of it. Which occurrence goes first is left
open. Two further descriptions of what is left are at hand: `Delimiter.cancel`, the single pass, and
for a delimiter of two equal characters `oddRuns`, which looks at runs of that character only.
-/

namespace SqlFilter

namespace Delimiter

/-- One occurrence is taken out. -/
def Removes (d : Delimiter) (cs ds : List Char) : Prop :=
  ∃ before after, cs = before ++ d.toList ++ after ∧ ds = before ++ after

/-- Whether no occurrence is left. -/
def IsFree (d : Delimiter) (cs : List Char) : Prop := ¬ d.toList <:+: cs

/-- Occurrences are taken out, one after another, until none is left. -/
inductive RemovesAll (d : Delimiter) : List Char → List Char → Prop where
  | done {cs : List Char} : d.IsFree cs → RemovesAll d cs cs
  | step {cs ds es : List Char} : d.Removes cs ds → RemovesAll d ds es → RemovesAll d cs es

/-- A removal takes out two characters, so there are only finitely many. -/
theorem Removes.length {d : Delimiter} {cs ds : List Char} (h : d.Removes cs ds) :
    ds.length + 2 = cs.length := by
  obtain ⟨before, after, rfl, rfl⟩ := h
  simp [toList]
  omega

/-- The leftmost occurrence is one of those that may be taken out. -/
theorem removes_of_removeFirst? {d : Delimiter} {cs ds : List Char}
    (h : d.removeFirst? cs = some ds) : d.Removes cs ds := by
  induction cs generalizing ds with
  | nil => simp [removeFirst?] at h
  | cons a cs ih =>
    cases cs with
    | nil => simp [removeFirst?] at h
    | cons b cs =>
      rw [removeFirst?] at h
      split at h
      · next spelled =>
        obtain ⟨rfl, rfl⟩ := spelled
        simp only [Option.some.injEq] at h
        subst h
        exact ⟨[], cs, rfl, rfl⟩
      · obtain ⟨r, found, rfl⟩ := Option.map_eq_some_iff.1 h
        obtain ⟨before, after, whole, rfl⟩ := ih found
        exact ⟨a :: before, after, by rw [whole]; rfl, rfl⟩

end Delimiter

/-- Every maximal run of `c` cut down to one character if its length is odd, and to nothing if it is
even. -/
def oddRuns (c : Char) (cs : List Char) : List Char :=
  (cs.splitBy fun a b => a == b).flatMap fun run =>
    if run.head? = some c then run.take (run.length % 2) else run

end SqlFilter
