import ChassisCooling.Proofs.Config.Load
import ChassisCooling.Proofs.Config.Text
import ChassisCooling.Proofs.Json.Elements

/-!
# The forms of a configuration's text

A text gives values to some fields, by name in an object or by place in an array, and each value goes
into its field whatever the other fields hold. So the order of names is irrelevant, a default may be
left out or written, and an array says the same as the object of its first fields.

What is loaded is compared with the errors left aside: which of several faults is met first does
depend on the order.

* `Config.gather`: values into their fields, one after the other; `Config.gather_perm`.
* `Config.takes_read_object`, `Config.takes_read_array`: both forms gather.
* `Config.forms_load_alike`: texts that load alike.
-/

namespace ChassisCooling

open Json (ArrayText Blanks Ends Lead Listed Member ObjectText Skips StringText Takes ValueText
  WholeDocument gatherMembers taken takes_taken)

namespace Config

variable {v : List Char}

/-! ## Values of fields -/

theorem skips_readTargets : Skips readTargets :=
  fun blanks s hblanks => by simp only [readTargets, Json.skipBlanks_append hblanks s]

theorem takes_readTarget (hv : ValueText v) (targets : Targets Single) (name : String)
    {before after : List Char} (hbefore : Blanks before) (hafter : Blanks after) :
    Takes (readTarget targets name) (before ++ ':' :: (after ++ v))
      ((taken Json.readSingle v).map (targets.insert name)) :=
  Json.takes_afterColon ((Json.skips_readBinary _ _).map (targets.insert name))
    ((takes_taken (Json.exists_takes_binary _ _ hv)).map (targets.insert name)) hbefore hafter

theorem readTargets_of_startsNumber {s : List Char} (h : Json.startsNumber s) :
    ∃ stop, readTargets s = .error stop := by
  unfold readTargets
  rw [Json.skipBlanks_of_startsNumber h]
  split
  · simp [Json.startsNumber] at h
  · exact ⟨_, rfl⟩

theorem exists_takes_targets (hv : ValueText v) : ∃ outcome, Takes readTargets v outcome := by
  cases hv with
  | object hs hkeys hvalues =>
    obtain ⟨body, rfl⟩ := Json.ObjectText.head hs
    let step (targets : Targets Single) (name : String) (v : List Char) : Option (Targets Single) :=
      (taken Json.readSingle v).map (targets.insert name)
    have htakes : Takes (Json.readObject readTarget .empty) body (gatherMembers step .empty _) :=
      Json.takes_object hs hkeys (fun m hm acc name before after hbefore hafter =>
        takes_readTarget (hvalues m hm) acc name hbefore hafter) .empty
    exact ⟨_, htakes⟩
  | array hs =>
    obtain ⟨body, rfl⟩ := hs.head
    exact ⟨none, Json.takes_none fun rest _ => ⟨_, rfl⟩⟩
  | number hs =>
    exact ⟨none, Json.takes_none fun rest _ => readTargets_of_startsNumber (hs.startsNumber rest)⟩
  | _ => exact ⟨none, Json.takes_none fun rest _ => ⟨_, rfl⟩⟩

theorem skips_into {α : Type} {read : Json.Reader α} (h : Skips read) (change : α → Config) :
    Skips (into change read) :=
  h.map change

theorem skips_readField (c : Config) (field : Field) : Skips (c.readField field) := by
  cases field <;> simp only [readField]
  case historyCapacity => exact skips_into Json.skips_readCount _
  case exportPath => exact skips_into Json.skips_readPath _
  case simulation => exact skips_into Json.skips_readBool _
  case sensorTargets => exact skips_into skips_readTargets _
  all_goals exact skips_into (Json.skips_readBinary _ _) _

theorem takes_readField (hv : ValueText v) (c : Config) (field : Field) :
    Takes (c.readField field) v (taken (c.readField field) v) := by
  have hmap : ∀ {α : Type} {read : Json.Reader α} (change : α → Config),
      (∃ outcome, Takes read v outcome) → ∃ outcome, Takes (into change read) v outcome :=
    fun change h => ⟨_, (takes_taken h).map change⟩
  refine takes_taken ?_
  cases field <;> simp only [readField]
  case historyCapacity => exact hmap _ (Json.exists_takes_count hv)
  case exportPath => exact hmap _ (Json.exists_takes_path hv)
  case simulation => exact hmap _ (Json.exists_takes_bool hv)
  case sensorTargets => exact hmap _ (exists_takes_targets hv)
  all_goals exact hmap _ (Json.exists_takes_binary _ _ hv)

theorem taken_into {α : Type} (change : α → Config) (read : Json.Reader α) :
    taken (into change read) v = (taken read v).map change := by
  unfold taken into
  cases read v <;> rfl

/-- What a value makes of a field does not depend on the other fields. -/
theorem taken_readField (c : Config) (field : Field) :
    taken (c.readField field) v =
      (taken (default.readField field) v).map fun source => c.withField source field := by
  cases field <;> simp only [readField, taken_into, Option.map_map] <;> rfl

theorem withField_self (c : Config) (field : Field) : c.withField c field = c := by
  cases field <;> rfl

theorem withField_comm (c source source' : Config) {field field' : Field} (h : field ≠ field') :
    (c.withField source field).withField source' field' =
      (c.withField source' field').withField source field := by
  cases field <;> cases field' <;> first | rfl | exact absurd rfl h

/-! ## Gathering -/

/-- Values into their fields, one after the other. -/
def gather (c : Config) (entries : List (Field × List Char)) : Option Config :=
  entries.foldlM (fun c entry => taken (c.readField entry.1) entry.2) c

theorem gather_cons (c : Config) (entry : Field × List Char) (entries : List (Field × List Char)) :
    gather c (entry :: entries) =
      (taken (c.readField entry.1) entry.2).bind fun c => gather c entries :=
  List.foldlM_cons

theorem gather_swap (c : Config) {entry entry' : Field × List Char} (h : entry.1 ≠ entry'.1)
    (entries : List (Field × List Char)) :
    gather c (entry :: entry' :: entries) = gather c (entry' :: entry :: entries) := by
  simp only [gather_cons]
  rw [taken_readField c entry.1, taken_readField c entry'.1]
  cases hfirst : taken (default.readField entry.1) entry.2 with
  | none =>
    cases hsecond : taken (default.readField entry'.1) entry'.2 with
    | none => rfl
    | some source' =>
      simp only [Option.map_none, Option.bind_none, Option.map_some, Option.bind_some]
      rw [taken_readField, hfirst]
      rfl
  | some source =>
    simp only [Option.map_some, Option.bind_some]
    rw [taken_readField _ entry'.1]
    cases hsecond : taken (default.readField entry'.1) entry'.2 with
    | none => rfl
    | some source' =>
      simp only [Option.map_some, Option.bind_some]
      rw [taken_readField _ entry.1, hfirst, Option.map_some, Option.bind_some,
        withField_comm c source source' h]

/-- The order of the fields is irrelevant if none comes twice. -/
theorem gather_perm {entries entries' : List (Field × List Char)} (h : entries.Perm entries')
    (hnodup : (entries.map Prod.fst).Nodup) (c : Config) : gather c entries = gather c entries' := by
  induction h generalizing c with
  | nil => rfl
  | cons entry _ ih =>
    rw [gather_cons, gather_cons]
    exact Option.bind_congr fun next _ => ih (List.nodup_cons.1 hnodup).2 next
  | swap entry entry' entries =>
    refine gather_swap c (fun heq => ?_) entries
    exact (List.nodup_cons.1 hnodup).1 (heq ▸ List.mem_cons_self)
  | trans h _ ih ih' => exact (ih hnodup c).trans (ih' ((h.map Prod.fst).nodup_iff.1 hnodup) c)

/-! ## Objects -/

/-- What a member makes of the fields that were read and the configuration. -/
def memberStep (state : List Field × Config) (name : String) (v : List Char) :
    Option (List Field × Config) :=
  (Field.ofName? name).bind fun field =>
    if field ∈ state.1 then none
    else (taken (state.2.readField field) v).map fun c => (field :: state.1, c)

theorem takes_readMember (hv : ValueText v) (state : List Field × Config) (name : String)
    {before after : List Char} (hbefore : Blanks before) (hafter : Blanks after) :
    Takes (readMember state name) (before ++ ':' :: (after ++ v)) (memberStep state name v) := by
  obtain ⟨seen, c⟩ := state
  unfold memberStep
  cases hname : Field.ofName? name with
  | none =>
    refine Json.takes_none fun rest _ =>
      ⟨refuseName (.unknownField name (Field.all.map Field.name))
        (before ++ ':' :: (after ++ v) ++ rest), ?_⟩
    simp only [readMember, hname]
  | some field =>
    rw [Option.bind_some]
    by_cases hseen : field ∈ seen
    · rw [if_pos hseen]
      refine Json.takes_none fun rest _ =>
        ⟨refuseName (.repeatedField name) (before ++ ':' :: (after ++ v) ++ rest), ?_⟩
      simp only [readMember, hname, if_pos hseen]
    · rw [if_neg hseen]
      intro rest hrest
      simp only [readMember, hname, if_neg hseen]
      exact Json.takes_afterColon ((skips_readField c field).map fun c => (field :: seen, c))
        ((takes_readField hv c field).map fun c => (field :: seen, c)) hbefore hafter rest hrest

/-- A member that gives a value to a field: its key is the name of the field, with escapes or
without. -/
structure Gives (entry : Field × List Char) (m : Member) : Prop where
  key : StringText m.key
  name : taken Json.readString (m.key ++ ['"']) = some entry.1.name
  value : m.value = entry.2
  text : ValueText m.value

/-- By induction on the members: the fields that were read are those of the entries before. -/
theorem gatherMembers_eq {entries : List (Field × List Char)} {members : List Member}
    (h : List.Forall₂ Gives entries members) (hnodup : (entries.map Prod.fst).Nodup)
    {seen : List Field} (hnew : ∀ entry ∈ entries, entry.1 ∉ seen) (c : Config) :
    (gatherMembers memberStep (seen, c) members).map Prod.snd = gather c entries := by
  unfold gatherMembers
  induction h generalizing seen c with
  | nil => rfl
  | @cons entry m entries members hgives _ ih =>
    obtain ⟨hfield, hnodup⟩ := List.nodup_cons.1 hnodup
    rw [gather_cons, List.foldlM_cons, hgives.name, Option.bind_some, memberStep,
      Field.ofName?_name, Option.bind_some, if_neg (hnew entry List.mem_cons_self), hgives.value]
    cases taken (c.readField entry.1) entry.2 with
    | none => rfl
    | some next =>
      refine ih hnodup (fun other hother => ?_) next
      rw [List.mem_cons, not_or]
      exact ⟨fun heq => hfield (heq ▸ List.mem_map_of_mem hother),
        hnew other (List.mem_cons_of_mem _ hother)⟩

theorem takes_read_object {entries : List (Field × List Char)} {members : List Member}
    (h : List.Forall₂ Gives entries members) (hnodup : (entries.map Prod.fst).Nodup)
    (hv : ObjectText members v) : Takes read v (gather default entries) := by
  have hgives : ∀ m ∈ members, ∃ entry, Gives entry m := fun m hm => by
    obtain ⟨entry, -, hentry⟩ := exists_of_forall₂_of_mem h.flip hm
    exact ⟨entry, hentry⟩
  obtain ⟨body, rfl⟩ := Json.ObjectText.head hv
  have htakes := Json.takes_object hv
    (fun m hm => by
      obtain ⟨entry, hentry⟩ := hgives m hm
      exact hentry.key)
    (fun m hm acc name before after hbefore hafter => by
      obtain ⟨entry, hentry⟩ := hgives m hm
      exact takes_readMember hentry.text acc name hbefore hafter)
    ([], default)
  rw [← gatherMembers_eq h hnodup (fun _ _ => List.not_mem_nil) default]
  intro rest hrest
  exact htakes.map Prod.snd rest hrest

/-! ## Arrays -/

theorem readItems_of_close (c : Config) (first : Bool) (fields : List Field) {blanks : List Char}
    (hblanks : Blanks blanks) (rest : List Char) :
    readItems c first fields (blanks ++ ']' :: rest) = .ok (c, rest) := by
  cases fields with
  | nil =>
    simp only [readItems, readListEnd, Json.skipBlanks_append hblanks,
      Json.skipBlanks_cons (show Json.isBlank ']' = false from rfl)]
  | cons field fields =>
    have hnext := Json.Brackets.next_of_close Json.Brackets.proper_list first hblanks rest
    simp only [readItems]
    rw [show Json.Brackets.list.close = ']' from rfl] at hnext
    simp only [hnext, bind, Except.bind]
    rfl

/-- One item is read into its field, and the others from what is left. -/
theorem toOption_readItems_cons {first : Bool} {lead before rest : List Char} (c : Config)
    (field : Field) (fields : List Field) (hlead : Lead first lead) (hbefore : Blanks before)
    (hv : ValueText v) (hrest : Ends rest) :
    (readItems c first (field :: fields) (lead ++ (before ++ (v ++ rest)))).toOption =
      (taken (c.readField field) v).bind fun c => (readItems c false fields rest).toOption := by
  have hnext := Json.Brackets.next_of_leads Json.Brackets.proper_list hlead hbefore hv.leads rest
  have hread := takes_readField hv c field rest hrest
  rw [readItems, hnext, toOption_bind]
  show (c.readField field (v ++ rest) >>= _).toOption = _
  rw [toOption_bind, hread]
  cases taken (c.readField field) v <;> rfl

/-- By induction on the items. -/
theorem toOption_readItems {items : List (List Char)} {s : List Char} (hs : Listed items s)
    (hitems : ∀ item ∈ items, ValueText item) {first : Bool} {lead : List Char}
    (hlead : Lead first lead) (c : Config) {fields : List Field}
    (hlength : items.length ≤ fields.length) (rest : List Char) :
    (readItems c first fields (lead ++ (s ++ ']' :: rest))).toOption =
      (gather c (fields.zip items)).map (·, rest) := by
  induction hs generalizing first lead c fields with
  | @last before item after hbefore hafter =>
    obtain ⟨field, fields, rfl⟩ := List.exists_cons_of_length_pos hlength
    have hends : Ends (after ++ ']' :: rest) :=
      Json.ends_append hafter (Json.Brackets.proper_list.ends rest)
    simp only [List.append_assoc]
    rw [toOption_readItems_cons c field fields hlead hbefore (hitems item List.mem_cons_self) hends,
      List.zip_cons_cons, gather_cons]
    simp only [readItems_of_close _ false fields hafter rest]
    cases taken (c.readField field) item with
    | none => rfl
    | some next => simp [gather, Except.toOption]
  | @cons before item after s items hbefore hafter _ ih =>
    obtain ⟨field, fields, rfl⟩ := List.exists_cons_of_length_pos (Nat.lt_of_lt_of_le
      (Nat.succ_pos _) hlength)
    have hends : Ends (after ++ ',' :: (s ++ ']' :: rest)) :=
      Json.ends_append hafter (Json.ends_comma _)
    simp only [List.append_assoc, List.cons_append]
    rw [toOption_readItems_cons c field fields hlead hbefore (hitems item List.mem_cons_self) hends,
      List.zip_cons_cons, gather_cons]
    cases taken (c.readField field) item with
    | none => rfl
    | some next =>
      have htail := ih (fun item hitem => hitems item (List.mem_cons_of_mem _ hitem)) (.later hafter)
        next (Nat.le_of_succ_le_succ hlength)
      rw [List.append_assoc, List.singleton_append] at htail
      exact htail

/-- No more fields than there are items. -/
theorem map_fst_zip_sublist (fields : List Field) (items : List (List Char)) :
    ((fields.zip items).map Prod.fst).Sublist fields := by
  induction fields generalizing items with
  | nil => exact .slnil
  | cons field fields ih =>
    cases items with
    | nil => exact List.nil_sublist _
    | cons item items => exact (ih items).cons_cons field

theorem takes_read_array {items : List (List Char)} (hitems : ∀ item ∈ items, ValueText item)
    (hlength : items.length ≤ Field.all.length) (hv : ArrayText items v) :
    Takes read v (gather default (Field.all.zip items)) := by
  intro rest _
  cases hv with
  | @empty blanks hblanks =>
    show (readItems default true Field.all (blanks ++ [']'] ++ rest)).toOption = _
    rw [List.append_assoc, List.singleton_append, readItems_of_close _ true _ hblanks]
    rfl
  | @listed items s hs =>
    show (readItems default true Field.all (s ++ [']'] ++ rest)).toOption = _
    rw [List.append_assoc, List.singleton_append]
    exact toOption_readItems hs hitems .first default hlength rest

/-! ## Texts that load alike -/

/-- An object text that gives values to fields by name. -/
def ObjectOf (entries : List (Field × List Char)) (s : List Char) : Prop :=
  ∃ members text, List.Forall₂ Gives entries members ∧ ObjectText members text ∧
    WholeDocument text s

/-- An array text of some values. -/
def ArrayOf (items : List (List Char)) (s : List Char) : Prop :=
  ∃ text, (∀ item ∈ items, ValueText item) ∧ ArrayText items text ∧ WholeDocument text s

/-- A text of a field's default value. -/
def WritesDefault (field : Field) (v : List Char) : Prop :=
  ValueText v ∧ taken (default.readField field) v = some default

/-- Wherever the one text and the other are the contents of a file, the one is accepted if and only
if the other is, with the same configuration. -/
def LoadAlike (s s' : List Char) : Prop :=
  ∀ (t t' : Files.Tree) (path path' : String), t.readText path = .ok (String.ofList s) →
    t'.readText path' = .ok (String.ofList s') →
      (load t path).toOption = (load t' path').toOption

theorem skips_read : Skips read :=
  fun blanks s hblanks => by simp only [read, Json.skipBlanks_append hblanks s]

theorem holds_of_readText {t : Files.Tree} {path text : String} (h : t.readText path = .ok text) :
    t.holds path := by
  unfold Files.Tree.readText Files.Tree.readBytes at h
  unfold Files.Tree.holds
  cases hresolve : t.resolve true path with
  | ok target =>
    rw [hresolve] at h
    cases target with
    | existing l n => rfl
    | missing l slash => cases h
  | error failure => rw [hresolve] at h; cases h

/-- The checks see the configuration only. -/
theorem toOption_load {t : Files.Tree} {path : String} {s : List Char}
    (h : t.readText path = .ok (String.ofList s)) :
    (load t path).toOption =
      (ofText (String.ofList s)).toOption.bind fun c => c.validate.toOption.map fun _ => c := by
  unfold load ofValidText
  rw [if_neg (not_not.2 (holds_of_readText h)), h]
  show ((ofText (String.ofList s)).mapError Error.jsonParse >>= fun c => c.validate >>= fun _ =>
    pure c).toOption = _
  cases ofText (String.ofList s) with
  | error fault => rfl
  | ok c =>
    show (c.validate >>= fun _ => pure c).toOption = (c.validate.toOption.map fun _ => c)
    cases c.validate <;> rfl

theorem LoadAlike.of_gather {entries entries' : List (Field × List Char)}
    {s s' text text' : List Char} (hs : WholeDocument text s)
    (htakes : Takes read text (gather default entries))
    (hs' : WholeDocument text' s') (htakes' : Takes read text' (gather default entries'))
    (heq : gather default entries = gather default entries') : LoadAlike s s' := by
  intro t t' path path' h h'
  rw [toOption_load h, toOption_load h', ofText, ofText, Json.toOption_ofText skips_read hs htakes,
    Json.toOption_ofText skips_read hs' htakes', heq]

theorem gather_default_cons {field : Field} {v : List Char} (hv : WritesDefault field v)
    (entries : List (Field × List Char)) :
    gather default ((field, v) :: entries) = gather default entries := by
  rw [gather_cons, hv.2, Option.bind_some]

/-! ### Defaults -/

/-- A number with a point. -/
theorem valueText_of_places {sign whole places : List Char} (hsign : sign = [] ∨ sign = ['-'])
    (hwhole : Json.WholeText whole) (hplaces : Json.Digits places) :
    ValueText (sign ++ (whole ++ '.' :: places)) := by
  have htext := Json.NumberText.mk hsign hwhole (.present hplaces) .absent
  rw [List.append_nil] at htext
  exact .number htext

theorem valueText_default (field : Field) : ValueText ((default.fieldValue field).chars none) := by
  have hdecimal : ∀ (field : Field) (sign whole places : List Char),
      (default.fieldValue field).chars none = sign ++ (whole ++ '.' :: places) →
        sign = [] ∨ sign = ['-'] → Json.WholeText whole → Json.Digits places →
          ValueText ((default.fieldValue field).chars none) :=
    fun field sign whole places htext hsign hwhole hplaces =>
      htext ▸ valueText_of_places hsign hwhole hplaces
  have htens : ∀ tens : Char, tens.isDigit → tens ≠ '0' → Json.WholeText [tens, '0'] :=
    fun tens htens hzero => .digits ⟨List.cons_ne_nil _ _, by simp [htens]⟩ (by simp [hzero])
  cases field
  case minSpeed =>
    exact hdecimal _ [] ['3', '0'] ['0'] (by decide +kernel) (.inl rfl) (htens _ rfl (by decide))
      (by decide)
  case maxDecrease =>
    exact hdecimal _ [] ['1', '0'] ['0'] (by decide +kernel) (.inl rfl) (htens _ rfl (by decide))
      (by decide)
  case maxIncrease =>
    exact hdecimal _ [] ['2', '0'] ['0'] (by decide +kernel) (.inl rfl) (htens _ rfl (by decide))
      (by decide)
  case targetOffset =>
    exact hdecimal _ [] ['0'] ['0'] (by decide +kernel) (.inl rfl) .zero (by decide)
  case deadbandLow =>
    exact hdecimal _ ['-'] ['1', '0'] ['0'] (by decide +kernel) (.inr rfl) (htens _ rfl (by decide))
      (by decide)
  case deadbandHigh =>
    exact hdecimal _ [] ['1', '0'] ['0'] (by decide +kernel) (.inl rfl) (htens _ rfl (by decide))
      (by decide)
  case historyCapacity =>
    rw [show (default.fieldValue .historyCapacity).chars none = ['1', '0'] by decide +kernel]
    exact .number (Json.numberText_of_digits (by decide) (by decide))
  case intervalSecs =>
    exact hdecimal _ [] ['6', '0'] ['0'] (by decide +kernel) (.inl rfl) (htens _ rfl (by decide))
      (by decide)
  case targetFactor =>
    exact hdecimal _ [] ['0'] ['8'] (by decide +kernel) (.inl rfl) .zero (by decide)
  case exportPath =>
    rw [show (default.fieldValue .exportPath).chars none = ['n', 'u', 'l', 'l'] by decide +kernel]
    exact .null
  case simulation =>
    rw [show (default.fieldValue .simulation).chars none = ['f', 'a', 'l', 's', 'e'] by
      decide +kernel]
    exact .no
  case sensorTargets =>
    rw [show (default.fieldValue .sensorTargets).chars none = ['\x7b', '\x7d'] by decide +kernel]
    exact .object ⟨[], .nil, @Json.Enclosed.empty _ _ [] (by decide)⟩ (by simp) (by simp)

theorem readable_default : default.Readable where
  singles := by decide +kernel
  interval := by decide +kernel
  capacity := by decide

/-- What the program writes for a default is a text of the default. -/
theorem writesDefault_chars (field : Field) :
    WritesDefault field ((default.fieldValue field).chars none) := by
  refine ⟨valueText_default field, ?_⟩
  have hread := reads_field readable_default default field none [] [] (by simp) Json.ends_nil
  rw [List.nil_append, List.append_nil] at hread
  rw [taken, hread, withField_self]
  rfl

/-! ### The forms agree -/

/-- The fields of an object may come in any order. A field that is left out has its default: it may
as well be given a text of the default, such as the one that the program writes. And an array of at
most twelve values says the same as the object that gives them to the first fields. -/
theorem forms_load_alike :
    (∀ {entries entries' : List (Field × List Char)} {s s' : List Char}, ObjectOf entries s →
      ObjectOf entries' s' → (entries.map Prod.fst).Nodup → entries.Perm entries' → LoadAlike s s') ∧
    (∀ {field : Field} {v : List Char} {entries entries' : List (Field × List Char)}
      {s s' : List Char}, WritesDefault field v → ObjectOf entries s → ObjectOf entries' s' →
      (entries.map Prod.fst).Nodup → entries.Perm ((field, v) :: entries') → LoadAlike s s') ∧
    (∀ field, WritesDefault field ((default.fieldValue field).chars none)) ∧
    ∀ {items : List (List Char)} {s s' : List Char}, items.length ≤ 12 →
      ArrayOf items s → ObjectOf (Field.all.zip items) s' → LoadAlike s s' := by
  refine ⟨?_, ?_, writesDefault_chars, ?_⟩
  · rintro entries entries' s s' ⟨members, text, hgives, hobject, hs⟩
      ⟨members', text', hgives', hobject', hs'⟩ hnodup hperm
    have hnodup' : (entries'.map Prod.fst).Nodup := (hperm.map Prod.fst).nodup_iff.1 hnodup
    exact .of_gather hs (takes_read_object hgives hnodup hobject) hs'
      (takes_read_object hgives' hnodup' hobject') (gather_perm hperm hnodup default)
  · rintro field v entries entries' s s' hdefault ⟨members, text, hgives, hobject, hs⟩
      ⟨members', text', hgives', hobject', hs'⟩ hnodup hperm
    have hnodup' : (entries'.map Prod.fst).Nodup :=
      (List.nodup_cons.1 ((hperm.map Prod.fst).nodup_iff.1 hnodup)).2
    have hgather : gather default entries = gather default entries' := by
      rw [gather_perm hperm hnodup default, gather_default_cons hdefault]
    exact .of_gather hs (takes_read_object hgives hnodup hobject) hs'
      (takes_read_object hgives' hnodup' hobject') hgather
  · rintro items s s' hlength ⟨text, hitems, harray, hs⟩ ⟨members', text', hgives', hobject', hs'⟩
    have hnodup : ((Field.all.zip items).map Prod.fst).Nodup := by
      exact (map_fst_zip_sublist Field.all items).nodup (by decide)
    exact .of_gather hs (takes_read_array hitems hlength harray) hs'
      (takes_read_object hgives' hnodup hobject') rfl

/-- A speed floor and simulation, in both orders, then with the default interval as well; and the
speed floor alone in an array. -/
theorem forms_load_alike_of_two_fields :
    let plain := "\x7b\"min_speed\": 40,\"simulation\":true\x7d"
    let turned := "\x7b\"simulation\":true,\"min_speed\": 40\x7d"
    let full := "\x7b\"interval_secs\":60.0,\"min_speed\": 40,\"simulation\":true\x7d"
    LoadAlike plain.toList turned.toList ∧ LoadAlike full.toList plain.toList ∧
      LoadAlike "[40]".toList "\x7b\"min_speed\": 40\x7d".toList ∧
      (ofText plain).toOption.map (fun c => (c.minSpeed, c.simulation)) =
        some (Binary.ofNat 40, true) := by
  intro plain turned full
  let floor : Field × List Char := (.minSpeed, "40".toList)
  let simulation : Field × List Char := (.simulation, "true".toList)
  let interval : Field × List Char := (.intervalSecs, "60.0".toList)
  have hdefault : WritesDefault .intervalSecs "60.0".toList := by
    have hsixty : (default.fieldValue .intervalSecs).chars none = "60.0".toList := by decide +kernel
    rw [← hsixty]
    exact forms_load_alike.2.2.1 .intervalSecs
  have hforty : ValueText "40".toList :=
    .number (Json.numberText_of_digits (by decide) (by decide))
  have hfloor : Gives floor ⟨"min_speed".toList, "40".toList⟩ :=
    ⟨Json.stringText_of_plain (by decide), by decide +kernel, rfl, hforty⟩
  have hsimulation : Gives simulation ⟨"simulation".toList, "true".toList⟩ :=
    ⟨Json.stringText_of_plain (by decide), by decide +kernel, rfl, .yes⟩
  have hinterval : Gives interval ⟨"interval_secs".toList, "60.0".toList⟩ :=
    ⟨Json.stringText_of_plain (by decide), by decide +kernel, rfl, hdefault.1⟩
  have hblanks : Blanks [] := by decide
  have hspace : Blanks [' '] := by decide
  have hfloorText := @Json.MemberText.mk ⟨"min_speed".toList, "40".toList⟩ [] [' '] hblanks hspace
  have hsimulationText :=
    @Json.MemberText.mk ⟨"simulation".toList, "true".toList⟩ [] [] hblanks hblanks
  have hintervalText :=
    @Json.MemberText.mk ⟨"interval_secs".toList, "60.0".toList⟩ [] [] hblanks hblanks
  have hwhole : ∀ text s : List Char, s = text → WholeDocument text s := fun text s heq =>
    ⟨[], [], hblanks, hblanks, by rw [heq, List.nil_append, List.append_nil]⟩
  have hone : ObjectOf [floor] "\x7b\"min_speed\": 40\x7d".toList :=
    ⟨_, _, .cons hfloor .nil, ⟨_, .cons hfloorText .nil, .listed (.last hblanks hblanks)⟩,
      hwhole _ _ (by decide +kernel)⟩
  have hplain : ObjectOf [floor, simulation] plain.toList :=
    ⟨_, _, .cons hfloor (.cons hsimulation .nil),
      ⟨_, .cons hfloorText (.cons hsimulationText .nil),
        .listed (.cons hblanks hblanks (.last hblanks hblanks))⟩, hwhole _ _ (by decide +kernel)⟩
  have hturned : ObjectOf [simulation, floor] turned.toList :=
    ⟨_, _, .cons hsimulation (.cons hfloor .nil),
      ⟨_, .cons hsimulationText (.cons hfloorText .nil),
        .listed (.cons hblanks hblanks (.last hblanks hblanks))⟩, hwhole _ _ (by decide +kernel)⟩
  have hfull : ObjectOf [interval, floor, simulation] full.toList :=
    ⟨_, _, .cons hinterval (.cons hfloor (.cons hsimulation .nil)),
      ⟨_, .cons hintervalText (.cons hfloorText (.cons hsimulationText .nil)),
        .listed (.cons hblanks hblanks (.cons hblanks hblanks (.last hblanks hblanks)))⟩,
      hwhole _ _ (by decide +kernel)⟩
  have harray : ArrayOf ["40".toList] "[40]".toList :=
    ⟨_, by simpa using hforty, .listed (.last hblanks hblanks), hwhole _ _ (by decide +kernel)⟩
  exact ⟨forms_load_alike.1 hplain hturned (by decide) (.swap _ _ _),
    forms_load_alike.2.1 hdefault hfull hplain (by decide) (.refl _),
    forms_load_alike.2.2.2 (by decide) harray hone, by decide +kernel⟩

end Config

end ChassisCooling
