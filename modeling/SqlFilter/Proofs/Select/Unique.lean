import SqlFilter.Proofs.Clause.Unique
import SqlFilter.Proofs.Select.Clean
import SqlFilter.Proofs.Text.Digits
import SqlFilter.Select.History

/-!
# Statements are uniquely readable

If two statements with plain names have the same text, they have the same normal form
(`Select.normal_eq_of_toSql_eq`): table, columns, order, limit and offset are the same, and the
filters differ in nothing that a clause tells.

As for clauses, this is a statement on lists of pieces. The text is read from left to right:

* **Columns** end at a blank, and a comma stands between two of them. A column that is called `FROM`
  is therefore no keyword (`Select.columnPieces_append_inj`).
* **The parts behind the table** may be missing. Each begins with its own keyword, and no keyword
  begins another one, so what stands behind a part is not taken for the part
  (`Select.partPieces_append_inj`). A mark behind the statement serves as the keyword of its end.
* **The filter** ends where its clause does (`Expression.readsUniquely`), and a value that holds a
  keyword is a literal, which is a single piece.
-/

namespace SqlFilter

open Sql (Piece codes)
open Clause (namePieces IsNameChar name_append_inj run_append_inj)

namespace Select

/-! ### Parts that may be missing -/

/-- The pieces of a part that may be missing, behind its keyword. -/
def partPieces {α : Type} (keyword : String) (body : α → List Piece) : Option α → List Piece
  | none => []
  | some a => codes keyword.toList ++ body a

/-- A part that is there begins with its keyword. -/
theorem prefix_partPieces {α : Type} (keyword : String) (body : α → List Piece) (a : α)
    (ps : List Piece) : codes keyword.toList <+: partPieces keyword body (some a) ++ ps := by
  rw [partPieces, List.append_assoc]
  exact List.prefix_append _ _

/-- The pieces begin with one of the keywords. -/
def BeginsWith (keywords : List String) (ps : List Piece) : Prop :=
  ∃ keyword ∈ keywords, codes keyword.toList <+: ps

/-- None of the keywords begins with the given one, or is its beginning. -/
def IsApart (keyword : String) (keywords : List String) : Prop :=
  ∀ other ∈ keywords, ¬ keyword.toList <+: other.toList ∧ ¬ other.toList <+: keyword.toList

instance (keyword : String) (keywords : List String) : Decidable (IsApart keyword keywords) :=
  inferInstanceAs (Decidable (∀ other ∈ keywords, _ ∧ _))

/-- A part that may be missing begins with its keyword, or what is behind it stands in its place. -/
theorem BeginsWith.partPieces {α : Type} {keywords : List String} {ps : List Piece}
    (h : BeginsWith keywords ps) (keyword : String) (body : α → List Piece) (part : Option α) :
    BeginsWith (keyword :: keywords) (partPieces keyword body part ++ ps) := by
  -- a keyword of its own, or one of those behind it
  cases part with
  | none =>
    obtain ⟨other, mem, begins⟩ := h
    exact ⟨other, List.mem_cons_of_mem _ mem, begins⟩
  | some a => exact ⟨keyword, List.mem_cons_self, prefix_partPieces keyword body a ps⟩

/-- Pieces that begin with another keyword do not begin with this one. -/
theorem BeginsWith.not_prefix {keyword : String} {keywords : List String} {ps : List Piece}
    (h : BeginsWith keywords ps) (apart : IsApart keyword keywords) :
    ¬ codes keyword.toList <+: ps := by
  intro begins
  obtain ⟨other, mem, begins'⟩ := h
  -- of two keywords that begin the same pieces, one begins the other
  rcases List.prefix_or_prefix_of_prefix begins begins' with first | second
  · exact (apart other mem).1 (Sql.prefix_of_prefix_codes first)
  · exact (apart other mem).2 (Sql.prefix_of_prefix_codes second)

/-- **Where a part ends**, and whether it is there, is told by the keywords, provided that a part
which is there tells its own end. What else it tells is `f`. -/
theorem partPieces_append_inj {α β : Type} {f : α → β} {keyword : String} {keywords : List String}
    {body : α → List Piece} {part part' : Option α} {ps qs : List Piece}
    (apart : IsApart keyword keywords) (hps : BeginsWith keywords ps)
    (hqs : BeginsWith keywords qs)
    (inside : ∀ a, part = some a → ∀ b, part' = some b → body a ++ ps = body b ++ qs →
      f a = f b ∧ ps = qs)
    (h : partPieces keyword body part ++ ps = partPieces keyword body part' ++ qs) :
    part.map f = part'.map f ∧ ps = qs := by
  cases part with
  | none =>
    cases part' with
    | none => exact ⟨rfl, h⟩
    | some b =>
      -- the part there would begin what stands behind the missing part
      have begins := prefix_partPieces keyword body b qs
      rw [← h] at begins
      exact absurd begins (hps.not_prefix apart)
  | some a =>
    cases part' with
    -- the same, with the part missing on the other side
    | none =>
      have begins := prefix_partPieces keyword body a ps
      rw [h] at begins
      exact absurd begins (hqs.not_prefix apart)
    | some b =>
      rw [partPieces, partPieces, List.append_assoc, List.append_assoc] at h
      obtain ⟨same, rest⟩ := inside a rfl b rfl (List.append_cancel_left h)
      exact ⟨congrArg some same, rest⟩

/-! ### The ends of names and numbers -/

/-- The pieces begin with a character that ends a name. -/
def EndsName (ps : List Piece) : Prop := ∃ c qs, ps = .code c :: qs ∧ ¬ IsNameChar c

/-- Every keyword begins with a character that ends a name. -/
theorem BeginsWith.endsName {keywords : List String} {ps : List Piece}
    (h : BeginsWith keywords ps)
    (ends : ∀ keyword ∈ keywords, keyword.toList.head?.any fun c => ¬ IsNameChar c) :
    EndsName ps := by
  obtain ⟨keyword, mem, rest, rfl⟩ := h
  have first := ends keyword mem
  -- a keyword has a first character, and it is none of a name
  cases whole : keyword.toList with
  | nil => simp [whole] at first
  | cons c cs =>
    rw [whole] at first
    exact ⟨c, codes cs ++ rest, rfl, by simpa using first⟩

theorem EndsName.name_append_inj {name name' : String} {ps qs : List Piece} (hps : EndsName ps)
    (hqs : EndsName qs) (hname : IsPlainName name) (hname' : IsPlainName name')
    (h : namePieces name ++ ps = namePieces name' ++ qs) : name = name' ∧ ps = qs := by
  obtain ⟨c, ps, rfl, hc⟩ := hps
  obtain ⟨d, qs, rfl, hd⟩ := hqs
  obtain ⟨same, rfl, rfl⟩ := Clause.name_append_inj hname hname' hc hd h
  exact ⟨same, rfl⟩

/-- **Where a number ends** is told as it is for names, and its digits tell the number. -/
theorem EndsName.digits_append_inj {m n : Nat} {ps qs : List Piece} (hps : EndsName ps)
    (hqs : EndsName qs)
    (h : codes (Nat.toDigits 10 m) ++ ps = codes (Nat.toDigits 10 n) ++ qs) : m = n ∧ ps = qs := by
  obtain ⟨c, ps, rfl, hc⟩ := hps
  obtain ⟨d, qs, rfl, hd⟩ := hqs
  -- digits are name characters, so a number ends where a name would
  have digit (n : Nat) : ∀ c ∈ Nat.toDigits 10 n, IsNameChar c := fun c mem =>
    .inl (by rw [Char.isAlphanum, Digits.isDigit_of_mem_decimal mem, Bool.or_true])
  obtain ⟨same, rfl, rfl⟩ := run_append_inj (digit m) (digit n) hc hd h
  have value : Digits.value (Digits.decimal m) = Digits.value (Digits.decimal n) :=
    congrArg Digits.value same
  rw [Digits.value_decimal, Digits.value_decimal] at value
  exact ⟨value, rfl⟩

/-! ### Columns -/

/-- The pieces of the columns behind the first one, each behind a comma. -/
def furtherPieces (names : List String) : List Piece :=
  names.flatMap fun name => .code ',' :: .code ' ' :: namePieces name

theorem columnPieces_cons (name : String) (names : List String) :
    columnPieces (name :: names) = namePieces name ++ furtherPieces names := by
  induction names generalizing name with
  | nil => simp [columnPieces, furtherPieces]
  | cons next names ih =>
    rw [columnPieces, ih]
    · simp [furtherPieces, codes]
    · simp

/-- The columns go on with a comma or end at the blank; neither is part of a name. -/
theorem endsName_furtherPieces (names : List String) (ps : List Piece) :
    EndsName (furtherPieces names ++ .code ' ' :: ps) := by
  cases names with
  | nil => exact ⟨' ', ps, rfl, by decide⟩
  | cons name names => exact ⟨',', _, rfl, by decide⟩

theorem furtherPieces_append_inj {names names' : List String}
    (hnames : ∀ name ∈ names, IsPlainName name) (hnames' : ∀ name ∈ names', IsPlainName name)
    {ps qs : List Piece}
    (h : furtherPieces names ++ .code ' ' :: ps = furtherPieces names' ++ .code ' ' :: qs) :
    names = names' ∧ ps = qs := by
  induction names generalizing names' with
  | nil =>
    cases names' with
    | nil => simpa [furtherPieces] using h
    | cons name' names' => simp [furtherPieces] at h
  | cons name names ih =>
    -- a comma does not stand where the blank stands
    cases names' with
    | nil => simp [furtherPieces] at h
    | cons name' names' =>
      obtain ⟨first, others⟩ := List.forall_mem_cons.mp hnames
      obtain ⟨first', others'⟩ := List.forall_mem_cons.mp hnames'
      have h : namePieces name ++ (furtherPieces names ++ .code ' ' :: ps)
          = namePieces name' ++ (furtherPieces names' ++ .code ' ' :: qs) := by
        simpa [furtherPieces] using h
      obtain ⟨sameName, h⟩ := (endsName_furtherPieces names ps).name_append_inj
        (endsName_furtherPieces names' qs) first first' h
      obtain ⟨sameNames, rest⟩ := ih others others' h
      exact ⟨by rw [sameName, sameNames], rest⟩

/-- **Where the columns end** is told by the blank, since no comma stands before it. -/
theorem columnPieces_append_inj {names names' : List String}
    (hnames : ∀ name ∈ names, IsPlainName name) (hnames' : ∀ name ∈ names', IsPlainName name)
    {ps qs : List Piece}
    (h : columnPieces names ++ .code ' ' :: ps = columnPieces names' ++ .code ' ' :: qs) :
    names = names' ∧ ps = qs := by
  -- the star that stands for all columns is no name
  have star : ¬ IsNameChar '*' := by decide
  cases names with
  | nil =>
    cases names' with
    | nil => simpa [columnPieces, codes] using h
    | cons name' names' =>
      rw [columnPieces_cons, List.append_assoc] at h
      exact absurd h.symm ((hnames' name' List.mem_cons_self).ne_cons_code star _ _)
  | cons name names =>
    obtain ⟨first, others⟩ := List.forall_mem_cons.mp hnames
    -- in front of each list stands its first column, and the others go on as above
    rw [columnPieces_cons, List.append_assoc] at h
    cases names' with
    | nil => exact absurd h (first.ne_cons_code star _ _)
    | cons name' names' =>
      obtain ⟨first', others'⟩ := List.forall_mem_cons.mp hnames'
      rw [columnPieces_cons, List.append_assoc] at h
      obtain ⟨sameName, h⟩ := (endsName_furtherPieces names ps).name_append_inj
        (endsName_furtherPieces names' qs) first first' h
      obtain ⟨sameNames, rest⟩ := furtherPieces_append_inj others others' h
      exact ⟨by rw [sameName, sameNames], rest⟩

/-! ### The parts behind the table -/

theorem filterPieces_eq (filter : Option Expression) :
    filterPieces filter = partPieces " WHERE " Expression.pieces filter := by
  cases filter <;> rfl

/-- The pieces of a number. -/
def digits (n : Nat) : List Piece := codes (Nat.toDigits 10 n)

theorem countPieces_eq (keyword : String) (rows : Option Nat) :
    countPieces keyword rows = partPieces keyword digits rows := by
  cases rows <;> rfl

/-- The pieces behind the keyword of the order. -/
def directionPieces (order : String × SortOrder) : List Piece :=
  namePieces order.1 ++ .code ' ' :: codes order.2.keyword.toList

theorem orderPieces_eq (order : Option (String × SortOrder)) :
    orderPieces order = partPieces " ORDER BY " directionPieces order := by
  cases order with
  | none => rfl
  | some order => simp [orderPieces, partPieces, directionPieces, codes]

/-- Neither direction begins the other. -/
theorem direction_append_inj {direction direction' : SortOrder} {ps qs : List Piece}
    (h : codes direction.keyword.toList ++ ps = codes direction'.keyword.toList ++ qs) :
    direction = direction' ∧ ps = qs := by
  have same : direction = direction' := by
    -- by the letters of the two words; the first of them differ
    cases direction <;> cases direction' <;> first | rfl | simp [SortOrder.keyword, codes] at h
  subst same
  exact ⟨rfl, List.append_cancel_left h⟩

theorem directionPieces_append_inj {order order' : String × SortOrder}
    (plain : IsPlainName order.1) (plain' : IsPlainName order'.1) {ps qs : List Piece}
    (h : directionPieces order ++ ps = directionPieces order' ++ qs) :
    order = order' ∧ ps = qs := by
  rw [directionPieces, directionPieces, List.append_assoc, List.append_assoc] at h
  have blank : ¬ IsNameChar ' ' := by decide
  obtain ⟨column, -, h⟩ := name_append_inj plain plain' blank blank h
  obtain ⟨direction, rest⟩ := direction_append_inj h
  exact ⟨Prod.ext column direction, rest⟩

/-- The filter of a statement that has a text has a clause. -/
theorem isWritable_of_toSql {limit : Nat} {s : Select} {text : String}
    (h : s.toSql limit = .ok text) {e : Expression} (hfilter : s.filter = some e) :
    e.isWritable := by
  rw [toSql, hfilter, whereText] at h
  -- the text is put together behind the clause, so the clause is there
  obtain ⟨_, compiled, -⟩ := bind_eq_ok.mp h
  obtain ⟨_, compiled, -⟩ := bind_eq_ok.mp compiled
  exact (Expression.toClause_ok compiled).1

/-! ### Statements -/

/-- Statements that have a text, with plain names only. -/
structure IsPlain (s : Select) : Prop where
  isWritable : ∀ e, s.filter = some e → e.isWritable
  names : ∀ name ∈ s.names, IsPlainName name

namespace IsPlain

variable {s : Select}

theorem table (h : s.IsPlain) : IsPlainName s.table := h.names _ (by simp [Select.names])

theorem columns (h : s.IsPlain) : ∀ name ∈ s.columns, IsPlainName name :=
  fun name mem => h.names name (by simp [Select.names, mem])

theorem order (h : s.IsPlain) {order : String × SortOrder} (horder : s.orderBy = some order) :
    IsPlainName order.1 :=
  h.names _ (by simp [Select.names, horder])

theorem filter (h : s.IsPlain) {e : Expression} (hfilter : s.filter = some e) : e.IsPlain :=
  ⟨h.isWritable e hfilter, fun name mem => h.names name (by simp [Select.names, hfilter, mem])⟩

end IsPlain

/-- **The pieces of a statement tell its normal form.** -/
theorem normal_eq_of_pieces_eq {a b : Select} (ha : a.IsPlain) (hb : b.IsPlain)
    (h : a.pieces = b.pieces) : a.normal = b.normal := by
  -- a mark for the end stands behind both statements
  -- seen from the end: what stands behind each part begins with one of the keywords left
  have ending : BeginsWith [";"] (codes ";".toList) := ⟨";", by simp, List.prefix_rfl⟩
  have offset (s : Select) := ending.partPieces " OFFSET " digits s.offset
  have limit (s : Select) := (offset s).partPieces " LIMIT " digits s.limit
  have order (s : Select) := (limit s).partPieces " ORDER BY " directionPieces s.orderBy
  have filter (s : Select) := (order s).partPieces " WHERE " Expression.pieces s.filter
  have source : codes " FROM ".toList = .code ' ' :: codes "FROM ".toList := by decide
  have h := congrArg (· ++ codes ";".toList) h
  simp only [pieces, filterPieces_eq, orderPieces_eq, countPieces_eq, source, List.append_assoc,
    List.cons_append] at h
  -- from left to right
  obtain ⟨sameColumns, h⟩ :=
    columnPieces_append_inj ha.columns hb.columns (List.append_cancel_left h)
  obtain ⟨sameTable, h⟩ := ((filter a).endsName (by decide)).name_append_inj
    ((filter b).endsName (by decide)) ha.table hb.table (List.append_cancel_left h)
  obtain ⟨sameFilter, h⟩ := partPieces_append_inj (by decide) (order a) (order b)
    (fun e he e' he' same =>
      Expression.readsUniquely (ha.filter he) (hb.filter he') same) h
  obtain ⟨sameOrder, h⟩ := partPieces_append_inj (f := id) (by decide) (limit a) (limit b)
    (fun o ho o' ho' => directionPieces_append_inj (ha.order ho) (hb.order ho')) h
  obtain ⟨sameLimit, h⟩ := partPieces_append_inj (f := id) (by decide) (offset a) (offset b)
    (fun m _ n _ => EndsName.digits_append_inj ((offset a).endsName (by decide))
      ((offset b).endsName (by decide))) h
  obtain ⟨sameOffset, -⟩ := partPieces_append_inj (f := id) (by decide) ending ending
    (fun m _ n _ => EndsName.digits_append_inj (ending.endsName (by decide))
      (ending.endsName (by decide))) h
  simp only [Option.map_id, id_eq] at sameOrder sameLimit sameOffset
  rw [normal, normal, sameFilter, sameTable, sameColumns, sameOrder, sameLimit, sameOffset]

/-- **Statements are uniquely readable.** Two statements with plain names that have the same text,
under whatever limits of depth, are the same but for what a clause does not tell of its filter. -/
theorem normal_eq_of_toSql_eq {a b : Select} (ha : ∀ name ∈ a.names, IsPlainName name)
    (hb : ∀ name ∈ b.names, IsPlainName name) {m n : Nat} {text : String}
    (hs : a.toSql m = .ok text) (ht : b.toSql n = .ok text) : a.normal = b.normal := by
  -- both texts are read back as pieces
  have same : a.pieces = b.pieces := by
    rw [← Option.some_inj, ← (isTidy_pieces a).readBack, ← (isTidy_pieces b).readBack,
      ← toSql_ok hs, ← toSql_ok ht]
  have plainA : a.IsPlain := ⟨fun _ => isWritable_of_toSql hs, ha⟩
  have plainB : b.IsPlain := ⟨fun _ => isWritable_of_toSql ht, hb⟩
  exact normal_eq_of_pieces_eq plainA plainB same

/-- Names that are keywords, and a value that goes on as a statement does. A number has the same
text as the text of that number. -/
theorem normal_eq_of_toSql_eq_of_keywords :
    let note := Expression.eq "note" (.text "x') LIMIT 1")
    let s (value : Scalar) : Select :=
      ⟨"FROM", ["FROM", "WHERE"], some (note.and (Expression.eq "n" value)),
        some ("LIMIT", .descending), some 10, none⟩
    let text := "SELECT FROM, WHERE FROM FROM WHERE ((note = 'x'') LIMIT 1') AND (n = '7')) "
      ++ "ORDER BY LIMIT DESC LIMIT 10"
    (s (.int 7)).toSql 2 = .ok text ∧ (s (.text "7")).toSql 3 = .ok text ∧
      (s (.int 7)).normal = (s (.text "7")).normal := by
  intro note s text
  have plain (value : Scalar) : ∀ name ∈ (s value).names, IsPlainName name := by
    -- the names do not depend on the value, and they can be looked through
    change ∀ name ∈ ["FROM", "FROM", "WHERE", "LIMIT", "note", "n"], IsPlainName name
    decide
  have number : (s (.int 7)).toSql 2 = .ok text := by decide
  have written : (s (.text "7")).toSql 3 = .ok text := by decide
  exact ⟨number, written, normal_eq_of_toSql_eq (plain _) (plain _) number written⟩

end Select

end SqlFilter
