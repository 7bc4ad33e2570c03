import ChassisCooling.Export.Directory
import ChassisCooling.Proofs.Files.Growth

/-!
# Reading exported rows

Every field of a row is in quotes, so a comma or a line end in an object's name separates nothing,
and a quote in it is doubled, so it does not end the field.

* `Csv.read?`: a reader of comma-separated values, with quotes and without.
* `Csv.read?_csvText`: the text of some rows reads as these rows.
* `appendAll_eq`: rows that are added in several calls are added as if in one.
* `appendAll_reads_back`: a new file reads as all rows that were added to it.
-/

namespace ChassisCooling.Export

open Files (Tree)

/-! ## Comma-separated values -/

namespace Csv

/-- What a reader has come to. -/
inductive Position where
  | fieldStart
  /-- Inside a field that does not start with a quote. -/
  | bare
  | quoted
  /-- After a quote in a quoted field. It ends the field, unless another one follows. -/
  | afterQuote

structure Progress where
  /-- The complete records. -/
  records : List (List String)
  /-- The complete fields of the next record. -/
  record : List String
  field : List Char
  position : Position

namespace Progress

def start : Progress := ⟨[], [], [], .fieldStart⟩

def add (p : Progress) (c : Char) (position : Position) : Progress :=
  { p with field := p.field ++ [c], position }

def endField (p : Progress) : Progress :=
  ⟨p.records, p.record ++ [String.ofList p.field], [], .fieldStart⟩

def endRecord (p : Progress) : Progress :=
  ⟨p.records ++ [p.record ++ [String.ofList p.field]], [], [], .fieldStart⟩

/-- Outside quotes a comma ends a field and a line end a record. -/
def separate? (p : Progress) (c : Char) : Option Progress :=
  if c = ',' then some p.endField else if c = '\n' then some p.endRecord else none

/-- Quotes stand around a whole field only. -/
def next (p : Progress) (c : Char) : Option Progress :=
  match p.position with
  | .fieldStart =>
    if c = '"' then some { p with position := .quoted }
    else some ((p.separate? c).getD (p.add c .bare))
  | .bare => if c = '"' then none else some ((p.separate? c).getD (p.add c .bare))
  | .quoted => if c = '"' then some { p with position := .afterQuote } else some (p.add c .quoted)
  | .afterQuote => if c = '"' then some (p.add c .quoted) else p.separate? c

/-- The records at the end of the text. The line end of the last one may be missing. -/
def finish? (p : Progress) : Option (List (List String)) :=
  match p.position with
  | .quoted => none
  | .fieldStart => if p.record.isEmpty then some p.records else some p.endRecord.records
  | _ => some p.endRecord.records

end Progress

/-- The records of a text, each a list of fields. -/
def read? (text : String) : Option (List (List String)) :=
  (text.toList.foldlM Progress.next .start).bind Progress.finish?

variable (records : List (List String)) (record : List String)

theorem foldlM_doubled (field cs : List Char) :
    (doubled cs).foldlM Progress.next ⟨records, record, field, .quoted⟩ =
      some ⟨records, record, field ++ cs, .quoted⟩ := by
  induction cs generalizing field with
  | nil =>
    rw [List.append_nil]
    rfl
  | cons c cs ih =>
    rw [List.append_cons field c cs, doubled]
    split
    · next hquote =>
      subst hquote
      exact ih (field ++ ['"'])
    · next hne =>
      rw [List.foldlM_cons]
      simp only [Progress.next, if_neg hne]
      exact ih (field ++ [c])

theorem foldlM_quotedField (field : String) :
    (quotedField field).foldlM Progress.next ⟨records, record, [], .fieldStart⟩ =
      some ⟨records, record, field.toList, .afterQuote⟩ := by
  show (doubled field.toList ++ ['"']).foldlM Progress.next ⟨records, record, [], .quoted⟩ = _
  rw [List.foldlM_append, foldlM_doubled]
  rfl

/-- Fields with commas between them make one record. -/
theorem foldlM_csvFields {fields : List String} (h : fields ≠ []) :
    (csvFields fields ++ ['\n']).foldlM Progress.next ⟨records, record, [], .fieldStart⟩ =
      some ⟨records ++ [record ++ fields], [], [], .fieldStart⟩ := by
  fun_induction csvFields fields generalizing record with
  | case1 => exact absurd rfl h
  | case2 field =>
    rw [List.foldlM_append, foldlM_quotedField]
    show some (Progress.mk (records ++ [record ++ [String.ofList field.toList]]) _ _ _) = _
    rw [String.ofList_toList]
  | case3 field rest hrest ih =>
    rw [List.append_assoc, List.foldlM_append, foldlM_quotedField]
    have hcomma : Progress.next ⟨records, record, field.toList, .afterQuote⟩ ',' =
        some ⟨records, record ++ [field], [], .fieldStart⟩ := by
      show some (Progress.mk _ (record ++ [String.ofList field.toList]) _ _) = _
      rw [String.ofList_toList]
    show (',' :: (csvFields rest ++ ['\n'])).foldlM Progress.next
      ⟨records, record, field.toList, .afterQuote⟩ = _
    rw [List.foldlM_cons, hcomma]
    show (csvFields rest ++ ['\n']).foldlM Progress.next _ = _
    rw [ih (record ++ [field]) (by simpa using hrest), List.append_assoc]
    rfl

theorem foldlM_csvLines (rows : List Row) :
    (rows.flatMap csvLine).foldlM Progress.next ⟨records, [], [], .fieldStart⟩ =
      some ⟨records ++ rows.map Row.fields, [], [], .fieldStart⟩ := by
  induction rows generalizing records with
  | nil =>
    rw [List.map_nil, List.append_nil]
    rfl
  | cons row rows ih =>
    have hline : (csvLine row).foldlM Progress.next ⟨records, [], [], .fieldStart⟩ =
        some ⟨records ++ [row.fields], [], [], .fieldStart⟩ :=
      foldlM_csvFields records [] (List.cons_ne_nil _ _)
    rw [List.flatMap_cons, List.foldlM_append, hline]
    show (rows.flatMap csvLine).foldlM _ _ = _
    rw [ih, List.append_assoc]
    rfl

/-- Whatever the fields hold, the rows can be told apart and read. -/
theorem read?_csvText (rows : List Row) :
    read? (csvText rows) = some (rows.map Row.fields) := by
  unfold read? csvText
  rw [String.toList_ofList, Progress.start, foldlM_csvLines]
  rfl

example : read? "a,\"b\"\"c,\n\"\n,d" = some [["a", "b\"c,\n"], ["", "d"]] := by decide +kernel

end Csv

/-! ## Adding rows -/

variable {directory zone : String} {rows : List Row} {t t' : Tree}

theorem csvText_append (xs ys : List Row) : csvText (xs ++ ys) = csvText xs ++ csvText ys := by
  unfold csvText
  rw [List.flatMap_append, String.ofList_append]

theorem appendRows_of_ne_nil (h : rows ≠ []) (directory zone : String) (t : Tree) :
    appendRows directory zone rows t =
      match t.createDirectories directory with
      | (.error failure, made) => (.error (.exportFailed (zonePath directory zone) failure), made)
      | (.ok (), made) =>
        match made.appendText (zonePath directory zone) (csvText rows) with
        | .ok t' => (.ok (), t')
        | .error failure => (.error (.exportFailed (zonePath directory zone) failure), made) := by
  unfold appendRows
  exact if_neg (by simpa using h)

/-- First some directories are made, then the rows are added to a file. -/
theorem appendRows_eq_ok (hrows : rows ≠ [])
    (h : appendRows directory zone rows t = (.ok (), t')) :
    ∃ made, t.createDirectories directory = (.ok (), made) ∧
      made.appendText (zonePath directory zone) (csvText rows) = .ok t' := by
  rw [appendRows_of_ne_nil hrows] at h
  split at h
  · cases h
  · next made hmade =>
    split at h
    · next t₁ happend =>
      cases h
      exact ⟨made, hmade, happend⟩
    · cases h

/-- Calls for one batch of rows after the other, up to the first one that fails. -/
def appendAll (directory zone : String) : List (List Row) → Tree → Except Error Unit × Tree
  | [], t => (.ok (), t)
  | rows :: batches, t =>
    match appendRows directory zone rows t with
    | (.ok (), t) => appendAll directory zone batches t
    | (.error e, t) => (.error e, t)

/-- Two calls come to one, also where they fail. -/
theorem appendRows_append (directory zone : String) (xs ys : List Row) (t : Tree) :
    appendRows directory zone (xs ++ ys) t =
      match appendRows directory zone xs t with
      | (.ok (), t) => appendRows directory zone ys t
      | (.error e, t) => (.error e, t) := by
  by_cases hxs : xs = []
  · subst hxs
    rfl
  by_cases hys : ys = []
  · subst hys
    rw [List.append_nil]
    cases appendRows directory zone xs t with
    | mk result t' => cases result <;> rfl
  rw [appendRows_of_ne_nil (by simp [hxs]), appendRows_of_ne_nil hxs, csvText_append]
  cases hmade : t.createDirectories directory with
  | mk result made =>
    cases result with
    | error failure => rfl
    | ok _ =>
      simp only [Tree.appendText_append]
      cases happend : made.appendText (zonePath directory zone) (csvText xs) with
      | error failure => rfl
      | ok t' =>
        -- The second call finds the directories that the first one made.
        obtain ⟨l, hwritable, rfl, hresolve⟩ := Tree.append_eq_ok happend
        have hagain := Tree.createDirectories_again hmade
          (.set hwritable (.file (made.contentAt l ++ (csvText xs).toUTF8)))
        have hsecond := Tree.append_of_resolve hresolve (csvText ys).toUTF8
        simp only [appendRows_of_ne_nil hys, hagain, bind, Except.bind, Tree.appendText, hsecond]

/-- Calls come to one call with all rows. -/
theorem appendAll_eq (directory zone : String) (batches : List (List Row)) (t : Tree) :
    appendAll directory zone batches t = appendRows directory zone batches.flatten t := by
  induction batches generalizing t with
  | nil => rfl
  | cons rows batches ih =>
    rw [List.flatten_cons, appendRows_append, appendAll]
    simp only [ih]

/-! ## Reading them back -/

/-- Where the rows went. What was in the file before stands before them. -/
theorem exists_resolve_of_appendRows (hrows : rows ≠ [])
    (h : appendRows directory zone rows t = (.ok (), t')) :
    ∃ l, t'.resolve true (zonePath directory zone) =
      .ok (.existing l (.file (t.contentAt l ++ (csvText rows).toUTF8))) := by
  obtain ⟨made, hmade, happend⟩ := appendRows_eq_ok hrows h
  obtain ⟨l, -, -, hresolve⟩ := Tree.append_eq_ok happend
  have hgrows := Tree.createDirectories_grows t directory
  rw [hmade] at hgrows
  rw [hgrows.contentAt_eq] at hresolve
  exact ⟨l, hresolve⟩

/-- Rows can be added to the file of a zone in any number of calls: that is as good as one call with
all of them, whether it succeeds or not, and without rows nothing is done at all. After calls that
succeeded, the path of the zone leads to a file. If that file was not there before, its text reads
as the rows in their order, each as the texts of its four fields. -/
theorem appendAll_reads_back (directory zone : String) (batches : List (List Row)) (t : Tree) :
    appendAll directory zone batches t = appendRows directory zone batches.flatten t ∧
    (batches.flatten = [] → appendAll directory zone batches t = (.ok (), t)) ∧
    ∀ t', appendAll directory zone batches t = (.ok (), t') → batches.flatten ≠ [] →
      ∃ l content, t'.resolve true (zonePath directory zone) = .ok (.existing l (.file content)) ∧
        (t.node? l = none → ∃ text,
          t'.readText (zonePath directory zone) = .ok text ∧
          Csv.read? text = some (batches.flatten.map fun r =>
            [r.timestamp.toPlainText, r.object, r.stream.name, r.value.toPlainText])) := by
  have heq := appendAll_eq directory zone batches t
  refine ⟨heq, fun hrows => ?_, fun t' h hrows => ?_⟩
  · rw [heq, hrows]
    rfl
  · rw [heq] at h
    obtain ⟨l, hresolve⟩ := exists_resolve_of_appendRows hrows h
    refine ⟨l, _, hresolve, fun hnone => ⟨csvText batches.flatten, ?_, Csv.read?_csvText _⟩⟩
    rw [Tree.contentAt_eq_empty hnone, ByteArray.empty_append] at hresolve
    exact Tree.readText_of_resolve hresolve

/-- An object with a comma, quotes and a line end in its name, an empty name, and values that are no
numbers, in three calls, below a directory that is made by them. -/
theorem appendAll_reads_back_odd_names :
    let name := "fan \"1\",\n"
    let batches : List (List Row) :=
      [[⟨.ofNat 1000, name, .measured, .nan⟩], [],
        [⟨.ofDecimal false 10605 (-1), "", .commanded, .ofNat 40⟩,
          ⟨.ofNat 1120, "\"", .measured, .infinity true⟩]]
    ∃ t' text, appendAll "out/log" "a b" batches .blank = (.ok (), t') ∧
      t'.readText (zonePath "out/log" "a b") = .ok text ∧
      Csv.read? text = some [["1000", name, "measured", "NaN"], ["1060.5", "", "commanded", "40"],
        ["1120", "\"", "measured", "-inf"]] := by
  intro name batches
  obtain ⟨-, -, hread⟩ := appendAll_reads_back "out/log" "a b" batches .blank
  have hok : (appendAll "out/log" "a b" batches .blank).1.isOk := by decide +kernel
  have hnew : ((appendAll "out/log" "a b" batches .blank).2.resolve true
      (zonePath "out/log" "a b")).toOption.map
        (fun target => Tree.blank.node? target.location |>.isNone) = some true := by
    decide +kernel
  obtain ⟨_, hresult⟩ := exists_eq_ok_of_isOk hok
  have happended : appendAll "out/log" "a b" batches .blank = (.ok (), _) :=
    Prod.ext hresult rfl
  obtain ⟨l, content, hresolve, htext⟩ := hread _ happended (List.cons_ne_nil _ _)
  rw [hresolve] at hnew
  obtain ⟨text, hreadText, hrows⟩ :=
    htext (Option.isNone_iff_eq_none.1 (Option.some.inj hnew))
  refine ⟨_, text, happended, hreadText, hrows.trans ?_⟩
  decide +kernel

end ChassisCooling.Export
