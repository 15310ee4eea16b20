import Mathlib.Data.List.SplitBy
import SqlFilter.Text.Removal

/-!
# What cancellation leaves

`Delimiter.cancel` reads a text once and cancels on a stack. This module says what is left:

* no occurrence of the delimiter (`isFree_cancel`), and the text itself if there was none
  (`cancel_of_isFree`);
* what occurrences taken out one at a time leave, in whatever order they go
  (`RemovesAll.eq_cancel`). Taking one out can join its two sides into a new occurrence to the left
  of the cut, and occurrences may overlap: of three dashes in a row either the first two or the last
  two can go. The proof does not join two such removals again. It rests on what none of them
  changes: an occurrence leaves the stack as it was, whatever is on it (`foldl_push_toList`);
* of a text with a **barrier** in it, a character that the delimiter does not have, the two sides
  cancelled on their own (`cancel_append_cons`), and conversely a barrier in what is left comes from
  one in the text (`exists_of_cancel_eq_append_cons`);
* what no single removal changes (`cancel_invariant`): all other characters in their order, and as
  many first characters more than second ones as there were (`filter_cancel`, `count_cancel`);
* for a delimiter of two equal characters, every run of the character cut down by pairs
  (`cancel_eq_oddRuns`).

The stack holds the text read so far from its end to its beginning, so all statements about the
stack are statements about `List.IsChain` read backwards.
-/

namespace SqlFilter

namespace Delimiter

variable {d : Delimiter}

/-! ### Freedom from a delimiter -/

/-- Two characters that do not spell the delimiter. -/
def Apart (d : Delimiter) (a b : Char) : Prop := ¬ (a = d.first ∧ b = d.second)

theorem isFree_iff_isChain {cs : List Char} : d.IsFree cs ↔ cs.IsChain d.Apart := by
  -- being free and being a chain differ only in how two neighbours are named
  rw [List.isChain_iff_forall_rel_of_append_cons_cons, IsFree]
  constructor
  · rintro free a b before after rfl ⟨rfl, rfl⟩
    exact free ⟨before, after, by simp [toList]⟩
  · rintro apart ⟨before, after, whole⟩
    have spelled : cs = before ++ d.first :: d.second :: after := by
      rw [← whole]
      simp [toList]
    exact apart spelled ⟨rfl, rfl⟩

/-- A text without the first character of a delimiter is free of it. -/
theorem isFree_of_first_notMem {cs : List Char} (h : d.first ∉ cs) : d.IsFree cs :=
  fun occurs => h (occurs.subset (by simp [toList]))

/-- A text without the second character of a delimiter is free of it. -/
theorem isFree_of_second_notMem {cs : List Char} (h : d.second ∉ cs) : d.IsFree cs :=
  fun occurs => h (occurs.subset (by simp [toList]))

/-! ### The stack -/

theorem push_of_ne_second {c : Char} (h : c ≠ d.second) (stack : List Char) :
    d.push stack c = c :: stack := by
  cases stack with
  | nil => rfl
  | cons top below => rw [push_cons, if_neg fun meets => h meets.2]

/-- The stack never holds the delimiter. -/
theorem isChain_push {stack : List Char} (h : stack.IsChain (flip d.Apart)) (c : Char) :
    (d.push stack c).IsChain (flip d.Apart) := by
  cases stack with
  | nil => exact List.isChain_singleton c
  | cons top below =>
    rw [push_cons]
    -- either two characters cancel, or the new top is apart from the one below
    split
    · exact h.tail
    · next apart => exact List.isChain_cons_cons.mpr ⟨apart, h⟩

theorem isChain_foldl_push (cs : List Char) {stack : List Char}
    (h : stack.IsChain (flip d.Apart)) : (cs.foldl d.push stack).IsChain (flip d.Apart) := by
  induction cs generalizing stack with
  | nil => exact h
  | cons c cs ih => exact ih (isChain_push h c)

/-- **Nothing is left to cancel.** -/
theorem isFree_cancel (d : Delimiter) (cs : List Char) : d.IsFree (d.cancel cs) := by
  rw [isFree_iff_isChain, cancel, List.isChain_reverse]
  exact isChain_foldl_push cs List.isChain_nil

/-- What is free of the delimiter goes onto the stack as it is. -/
theorem foldl_push_of_isChain (cs stack : List Char) (h : (stack.reverse ++ cs).IsChain d.Apart) :
    cs.foldl d.push stack = cs.reverse ++ stack := by
  induction cs generalizing stack with
  | nil => rfl
  | cons c cs ih =>
    -- the top of the stack is the last character read before `c`
    have pushed : d.push stack c = c :: stack := by
      cases stack with
      | nil => rfl
      | cons top below =>
        rw [List.reverse_cons, List.append_assoc] at h
        have apart : d.Apart top c := (List.isChain_cons_cons.mp h.right_of_append).1
        rw [push_cons, if_neg apart]
    rw [List.foldl_cons, pushed, ih (c :: stack) (by simpa using h)]
    simp

/-- A text free of the delimiter stays as it is. -/
theorem cancel_of_isFree {cs : List Char} (h : d.IsFree cs) : d.cancel cs = cs := by
  rw [cancel, foldl_push_of_isChain cs [] (isFree_iff_isChain.mp h)]
  simp

/-! ### One removal -/

/-- **An occurrence leaves the stack as it was.** Mostly its first character is put on and its
second one takes it off again. If the delimiter is one character twice, the first may meet its like
on the stack and take it off; the second then stands in for it. -/
theorem foldl_push_toList {stack : List Char} (h : stack.IsChain (flip d.Apart)) :
    d.toList.foldl d.push stack = stack := by
  show d.push (d.push stack d.first) d.second = stack
  cases stack with
  | nil => rw [push_nil, push_cons, if_pos ⟨rfl, rfl⟩]
  | cons top below =>
    rw [push_cons]
    split
    · next meets =>
      obtain ⟨onTop, twice⟩ := meets
      have back : d.second = top := by rw [onTop, twice]
      cases below with
      | nil => rw [push_nil, back]
      | cons under below =>
        -- the character that came off had not met the one under it, and neither does the second
        have apart : ¬ (under = d.first ∧ d.second = d.second) := by
          rintro ⟨like, -⟩
          exact (List.isChain_cons_cons.mp h).1 ⟨like, back.symm⟩
        rw [push_cons, if_neg apart, back]
    · rw [push_cons, if_pos ⟨rfl, rfl⟩]

/-- **A removal does not change what cancellation leaves**, wherever the occurrence stood. -/
theorem cancel_eq_of_removes {cs ds : List Char} (h : d.Removes cs ds) :
    d.cancel cs = d.cancel ds := by
  obtain ⟨before, after, rfl, rfl⟩ := h
  have chain := isChain_foldl_push (d := d) before List.isChain_nil
  calc d.cancel (before ++ d.toList ++ after)
      = (after.foldl d.push (d.toList.foldl d.push (before.foldl d.push []))).reverse := by
        rw [cancel, List.foldl_append, List.foldl_append]
    _ = (after.foldl d.push (before.foldl d.push [])).reverse := by rw [foldl_push_toList chain]
    _ = d.cancel (before ++ after) := by rw [cancel, List.foldl_append]

/-! ### All removals -/

/-- **However the occurrences are taken out**, cancellation leaves the same. -/
theorem RemovesAll.eq_cancel {cs ds : List Char} (h : d.RemovesAll cs ds) : ds = d.cancel cs := by
  induction h with
  | done free => exact (cancel_of_isFree free).symm
  | step removal _ ih => rw [ih, cancel_eq_of_removes removal]

/-- The search for the leftmost occurrence misses none. -/
theorem isFree_of_removeFirst? {cs : List Char} (h : d.removeFirst? cs = none) : d.IsFree cs := by
  rw [isFree_iff_isChain]
  induction cs with
  | nil => exact List.isChain_nil
  | cons a cs ih =>
    cases cs with
    | nil => exact List.isChain_singleton a
    -- the search goes on where the first two characters are apart
    | cons b cs =>
      rw [removeFirst?] at h
      split at h
      · cases h
      · next apart => exact List.isChain_cons_cons.mpr ⟨apart, ih (Option.map_eq_none_iff.mp h)⟩

/-- **Taking out the leftmost occurrence first** is one of the orders. -/
theorem removesAll_strip (d : Delimiter) (cs : List Char) : d.RemovesAll cs (d.strip cs) := by
  -- along the removals of the loop itself
  induction cs using strip.induct d with
  | case1 cs found =>
    rw [strip, found]
    exact .done (isFree_of_removeFirst? found)
  | case2 cs rest found ih =>
    rw [strip, found]
    exact .step (removes_of_removeFirst? found) ih

/-- **One pass is enough**: the loop and the stack leave the same. -/
theorem strip_eq_cancel (d : Delimiter) (cs : List Char) : d.strip cs = d.cancel cs :=
  (removesAll_strip d cs).eq_cancel

/-- Cancellation is a series of removals, for all that it reads the text only once. -/
theorem removesAll_cancel (d : Delimiter) (cs : List Char) : d.RemovesAll cs (d.cancel cs) := by
  rw [← strip_eq_cancel]
  exact removesAll_strip d cs

/-- **What no removal changes**, cancellation does not change. -/
theorem cancel_invariant {β : Type} (f : List Char → β)
    (kept : ∀ before after, f (before ++ d.toList ++ after) = f (before ++ after))
    (cs : List Char) : f (d.cancel cs) = f cs := by
  have series := removesAll_cancel d cs
  -- the text that is left is any text that a series of removals can end with
  generalize d.cancel cs = rest at series ⊢
  induction series with
  | done => rfl
  | step removal _ ih =>
    obtain ⟨before, after, rfl, rfl⟩ := removal
    rw [ih, kept]

/-- Cancellation only takes characters out. -/
theorem sublist_cancel (d : Delimiter) (cs : List Char) : (d.cancel cs).Sublist cs := by
  have series := removesAll_cancel d cs
  generalize d.cancel cs = rest at series ⊢
  induction series with
  | done => exact .refl _
  | step removal _ ih =>
    obtain ⟨before, after, rfl, rfl⟩ := removal
    exact ih.trans (List.Sublist.append_right (List.sublist_append_left before d.toList) after)

/-! ### Barriers -/

/-- What lies below a character that opens no occurrence is out of reach. -/
theorem foldl_push_append {c : Char} (h : c ≠ d.first) (cs upper below : List Char) :
    cs.foldl d.push (upper ++ c :: below) = cs.foldl d.push upper ++ c :: below := by
  induction cs generalizing upper with
  | nil => rfl
  | cons x cs ih =>
    rw [List.foldl_cons, List.foldl_cons, ← ih]
    congr 1
    -- only where `upper` is empty can a character meet `c`, and `c` opens nothing
    cases upper with
    | nil =>
      rw [List.nil_append, push_cons, if_neg fun meets => h meets.1]
      rfl
    | cons top upper =>
      rw [List.cons_append, push_cons, push_cons]
      split <;> rfl

/-- **A barrier separates.** -/
theorem cancel_append_cons {c : Char} (h₁ : c ≠ d.first) (h₂ : c ≠ d.second)
    (cs ds : List Char) : d.cancel (cs ++ c :: ds) = d.cancel cs ++ c :: d.cancel ds := by
  -- the barrier goes onto the stack, and from then on what lies below it stays
  rw [cancel, List.foldl_append, List.foldl_cons, push_of_ne_second h₂]
  have separate := foldl_push_append h₁ ds [] (cs.foldl d.push [])
  rw [List.nil_append] at separate
  rw [separate]
  simp [cancel]

/-- Barriers only, and a text behind them. -/
theorem cancel_append_of_barriers {cs : List Char} (h : ∀ c ∈ cs, c ≠ d.first ∧ c ≠ d.second)
    (ds : List Char) : d.cancel (cs ++ ds) = cs ++ d.cancel ds := by
  induction cs with
  | nil => rfl
  | cons c cs ih =>
    have barrier := h c List.mem_cons_self
    have rest := ih fun x hx => h x (List.mem_cons_of_mem c hx)
    have first := cancel_append_cons barrier.1 barrier.2 [] (cs ++ ds)
    rw [List.nil_append] at first
    rw [List.cons_append, first, rest]
    rfl

/-- A barrier is never taken out. -/
theorem mem_cancel {c : Char} (h₁ : c ≠ d.first) (h₂ : c ≠ d.second) {cs : List Char}
    (h : c ∈ cs) : c ∈ d.cancel cs := by
  obtain ⟨before, after, rfl⟩ := List.append_of_mem h
  rw [cancel_append_cons h₁ h₂]
  simp

/-- **A barrier in what is left** was one in the text, and its two sides are left of the sides
there. -/
theorem exists_of_cancel_eq_append_cons {c : Char} (h₁ : c ≠ d.first) (h₂ : c ≠ d.second)
    {cs : List Char} (before after : List Char) (h : d.cancel cs = before ++ c :: after) :
    ∃ ds es, cs = ds ++ c :: es ∧ d.cancel ds = before ∧ d.cancel es = after := by
  -- on the length, since the barrier sought may be any of those in the text
  induction size : cs.length using Nat.strong_induction_on generalizing cs before with
  | _ n ih =>
    have found : c ∈ cs := (sublist_cancel d cs).subset (by rw [h]; simp)
    obtain ⟨ds, es, rfl, new⟩ := List.eq_append_cons_of_mem found
    -- no barrier stands in front of the first one, in the text or in what is left of it
    have fresh : c ∉ d.cancel ds := fun old => new ((sublist_cancel d ds).subset old)
    rw [cancel_append_cons h₁ h₂] at h
    rcases List.append_eq_append_iff.mp h with ⟨between, rfl, tail⟩ | ⟨between, split, tail⟩
    · cases between with
      | nil =>
        rw [List.nil_append, List.cons.injEq] at tail
        exact ⟨ds, es, rfl, by simp, tail.2⟩
      | cons x between =>
        -- the barrier sought is a later one
        rw [List.cons_append, List.cons.injEq] at tail
        obtain ⟨rfl, tail⟩ := tail
        have shorter : es.length < n := by
          rw [← size, List.length_append, List.length_cons]
          omega
        obtain ⟨ds', es', rfl, left, right⟩ := ih es.length shorter between tail rfl
        refine ⟨ds ++ c :: ds', es', by simp, ?_, right⟩
        rw [cancel_append_cons h₁ h₂, left]
    · cases between with
      | nil =>
        rw [List.nil_append, List.cons.injEq] at tail
        exact ⟨ds, es, rfl, by simp [split], tail.2.symm⟩
      | cons x between =>
        rw [List.cons_append, List.cons.injEq] at tail
        obtain ⟨rfl, -⟩ := tail
        -- otherwise the barrier found would stand in what is left of `ds`
        exact absurd (by rw [split]; simp) fresh

/-! ### What is kept -/

/-- All that the delimiter does not have stays, in its order. -/
theorem filter_cancel {p : Char → Bool} (h₁ : p d.first = false) (h₂ : p d.second = false)
    (cs : List Char) : (d.cancel cs).filter p = cs.filter p :=
  cancel_invariant (List.filter p) (fun before after => by simp [toList, h₁, h₂]) cs

theorem count_cancel_of_ne {c : Char} (h₁ : c ≠ d.first) (h₂ : c ≠ d.second) (cs : List Char) :
    (d.cancel cs).count c = cs.count c :=
  cancel_invariant (List.count c)
    (fun before after => by simp [toList, h₁.symm, h₂.symm]) cs

/-- **Cancellation keeps the balance** of the two characters. -/
theorem count_cancel (h : d.first ≠ d.second) (cs : List Char) :
    (d.cancel cs).count d.first + cs.count d.second
      = (d.cancel cs).count d.second + cs.count d.first := by
  have balance := cancel_invariant (d := d)
    (fun cs => (cs.count d.first : Int) - cs.count d.second)
    (fun before after => by simp [toList, h, h.symm]; omega) cs
  omega

/-- A character that is a delimiter with itself goes in pairs. -/
theorem count_cancel_mod_two (c : Char) (cs : List Char) :
    ((⟨c, c⟩ : Delimiter).cancel cs).count c % 2 = cs.count c % 2 :=
  cancel_invariant (fun cs => cs.count c % 2) (fun before after => by simp [toList]; omega) cs

/-! ### The delimiter read backwards -/

/-- The delimiter with its two characters exchanged. -/
def swap (d : Delimiter) : Delimiter := ⟨d.second, d.first⟩

/-- The stack stays free of `d` while `d` read backwards is cancelled. Where a character is taken
off, the one that took it off is the first of `d`, so in a text free of `d` the next character is
not the second. -/
theorem isChain_foldl_push_swap (cs stack : List Char) (h : cs.IsChain d.Apart)
    (hstack : stack.IsChain (flip d.Apart))
    (hmeet : ∀ top ∈ stack.head?, ∀ c ∈ cs.head?, d.Apart top c) :
    (cs.foldl d.swap.push stack).IsChain (flip d.Apart) := by
  induction cs generalizing stack with
  | nil => exact hstack
  | cons c cs ih =>
    rw [List.isChain_cons] at h
    rw [List.foldl_cons]
    cases stack with
    | nil =>
      -- nothing is on the stack to meet, so only `c` and what follows it matter
      refine ih [c] h.2 (List.isChain_singleton c) ?_
      intro top htop x hx
      obtain rfl : c = top := by simpa using htop
      exact h.1 x hx
    | cons top below =>
      rw [push_cons]
      split
      · next meets =>
        -- `c` took `top` off, so `c` is the first character of `d`
        refine ih below h.2 hstack.tail ?_
        rintro under - x hx ⟨-, rfl⟩
        exact h.1 d.second hx ⟨meets.2, rfl⟩
      · refine ih (c :: top :: below) h.2 ?_ ?_
        · exact List.isChain_cons_cons.mpr ⟨hmeet top rfl c rfl, hstack⟩
        · intro top' htop x hx
          obtain rfl : c = top' := by simpa using htop
          exact h.1 x hx

/-- **No occurrence comes back** when the delimiter read backwards is cancelled. -/
theorem isFree_cancel_swap {cs : List Char} (h : d.IsFree cs) : d.IsFree (d.swap.cancel cs) := by
  rw [isFree_iff_isChain] at h ⊢
  rw [cancel, List.isChain_reverse]
  exact isChain_foldl_push_swap cs [] h List.isChain_nil (by simp)

/-! ### Two equal characters -/

/-- Of a run of the character one is left if the run is odd, and none if it is even. -/
theorem cancel_replicate (c : Char) (n : Nat) :
    (⟨c, c⟩ : Delimiter).cancel (List.replicate n c) = List.replicate (n % 2) c := by
  -- two characters of the run take each other off, so the induction is in steps of two
  have read : ∀ n, (List.replicate n c).foldl (⟨c, c⟩ : Delimiter).push []
      = List.replicate (n % 2) c := by
    intro n
    induction n using Nat.twoStepInduction with
    | zero => rfl
    | one => rfl
    | more n ih _ => simpa [List.replicate_succ, push_cons] using ih
  rw [cancel, read, List.reverse_replicate]

/-- A run of the character in front of a text that starts with another one. -/
theorem cancel_replicate_append (c : Char) (n : Nat) {cs : List Char} (h : c ∉ cs.head?) :
    (⟨c, c⟩ : Delimiter).cancel (List.replicate n c ++ cs)
      = List.replicate (n % 2) c ++ (⟨c, c⟩ : Delimiter).cancel cs := by
  cases cs with
  | nil =>
    rw [List.append_nil, cancel_replicate]
    exact (List.append_nil _).symm
  | cons x cs =>
    -- what follows the run is a barrier, and the run is cancelled on its own
    have barrier : x ≠ c := fun same => h (by simp [same])
    have whole := cancel_append_cons (d := ⟨c, c⟩) barrier barrier (List.replicate n c) cs
    have rest := cancel_append_cons (d := ⟨c, c⟩) barrier barrier [] cs
    rw [List.nil_append] at rest
    rw [whole, rest, cancel_replicate]
    rfl

/-- A run is cut down on its own. -/
theorem cancel_run_append (c a : Char) (n : Nat) {cs : List Char} (h : a ∉ cs.head?) :
    (⟨c, c⟩ : Delimiter).cancel (List.replicate (n + 1) a ++ cs)
      = (if a = c then List.replicate ((n + 1) % 2) a else List.replicate (n + 1) a)
        ++ (⟨c, c⟩ : Delimiter).cancel cs := by
  split
  · next same =>
    subst same
    exact cancel_replicate_append a (n + 1) h
  · next other =>
    refine cancel_append_of_barriers (fun x hx => ?_) cs
    rw [List.eq_of_mem_replicate hx]
    exact ⟨other, other⟩

/-- **Cancellation of pairs** cuts every run of the character down to one or nothing. -/
theorem cancel_eq_oddRuns (c : Char) (cs : List Char) :
    (⟨c, c⟩ : Delimiter).cancel cs = oddRuns c cs := by
  -- the runs are not empty, each is of one character, and neighbours differ
  obtain ⟨whole, nonempty, equal, next⟩ := List.splitBy_eq_iff.mp
    (rfl : cs.splitBy (fun a b => a == b) = cs.splitBy fun a b => a == b)
  rw [oddRuns]
  generalize cs.splitBy (fun a b => a == b) = runs at whole nonempty equal next ⊢
  subst whole
  induction runs with
  | nil => rfl
  | cons run runs ih =>
    rw [List.isChain_cons] at next
    have rest := ih (fun h => nonempty (List.mem_cons_of_mem run h))
      (fun r hr => equal r (List.mem_cons_of_mem run hr)) next.2
    cases run with
    | nil => exact absurd List.mem_cons_self nonempty
    | cons a run =>
      have same : a :: run = List.replicate (run.length + 1) a := by
        have chain := equal (a :: run) List.mem_cons_self
        simpa [List.isChain_eq_iff_eq_replicate] using chain
      have other : a ∉ runs.flatten.head? := by
        cases runs with
        | nil => simp
        | cons run' runs =>
          -- the next run starts with a character other than the last one of this run
          obtain ⟨hrun, hrun', differ⟩ := next.1 run' rfl
          have last : (a :: run).getLast hrun = a := by simp [same]
          rw [last] at differ
          intro head
          rw [List.flatten_cons, List.head?_append_of_ne_nil _ hrun', List.head?_eq_some_head hrun']
            at head
          simp [Option.some.inj head] at differ
      rw [List.flatten_cons, List.flatMap_cons, ← rest, same, cancel_run_append c a _ other]
      have cut : min ((run.length + 1) % 2) (run.length + 1) = (run.length + 1) % 2 := by omega
      have head : (List.replicate (run.length + 1) a).head? = some a := rfl
      simp [List.take_replicate, cut, head]

end Delimiter

end SqlFilter
