import ChassisCooling.Config.Text
import ChassisCooling.Proofs.Json.Reader

/-!
# The written configuration is read back

All twelve fields are written by name, each of them once, so no name is unknown or repeated and
every field is read into its place. The targets are written in the order of their names, so each is
inserted behind those before it, and the table that was written is built up again.

Nothing is known of the reader of numbers here but that it reads the numbers of the configuration
back (`ReadsBack`).

* `Config.reads_toValue`: the object of all fields.
* `Config.ofText_pretty`: the whole text.
-/

namespace ChassisCooling

open Json (Ends Gathers Reads ReadsBack)

/-! ## Targets -/

theorem insertSorted_of_lt {α : Type} {name : String} (value : α) {entries : List (String × α)}
    (h : ∀ entry ∈ entries, entry.1 < name) :
    insertSorted name value entries = entries ++ [(name, value)] := by
  induction entries with
  | nil => rfl
  | cons e rest ih =>
    have he : e.1 < name := h e List.mem_cons_self
    rw [insertSorted, if_neg (Std.not_lt.2 (Std.le_of_lt he)), if_neg (Std.ne_of_lt he).symm,
      ih fun entry hentry => h entry (List.mem_cons_of_mem _ hentry), List.cons_append]

theorem Targets.eq_of_entries_eq {α : Type} {t t' : Targets α} (h : t.entries = t'.entries) :
    t = t' := by
  obtain ⟨entries, sorted⟩ := t
  subst h
  rfl

namespace Config

theorem gathers_targets {entries : List (String × Single)} {acc last : Targets Single}
    (hlast : last.entries = acc.entries ++ entries)
    (hread : ∀ entry ∈ entries, ReadsBack entry.2) :
    Gathers readTarget acc (entries.map fun entry => (entry.1, .single entry.2)) last := by
  induction entries generalizing acc with
  | nil =>
    rw [Targets.eq_of_entries_eq (hlast.trans (List.append_nil _))]
    exact .nil acc
  | cons e rest ih =>
    have hbefore : ∀ entry ∈ acc.entries, entry.1 < e.1 := fun entry hentry =>
      (List.pairwise_append.1 (hlast ▸ last.sorted)).2.2 entry hentry e List.mem_cons_self
    have hinsert : (acc.insert e.1 e.2).entries = acc.entries ++ [e] :=
      insertSorted_of_lt e.2 hbefore
    have hvalue : Reads Json.readSingle (.single e.2) e.2 :=
      Json.reads_single (hread e List.mem_cons_self)
    refine .cons (fun layout rest hrest => ?_) (ih (by rw [hinsert, hlast, List.append_assoc]; rfl)
      fun entry hentry => hread entry (List.mem_cons_of_mem _ hentry))
    exact (hvalue.map (acc.insert e.1)).afterColon layout hrest

theorem reads_targets {targets : Targets Single}
    (hread : ∀ entry ∈ targets.entries, ReadsBack entry.2) :
    Reads readTargets (.object (targets.entries.map fun entry => (entry.1, .single entry.2)))
      targets := by
  intro layout blanks rest hblanks _
  have hgathers : Gathers readTarget .empty
      (targets.entries.map fun entry => (entry.1, .single entry.2)) targets :=
    gathers_targets rfl hread
  obtain ⟨body, htext, hbody⟩ := Json.readObject_object hgathers layout rest
  rw [readTargets, Json.skipBlanks_append hblanks, htext, Json.skipBlanks_cons rfl]
  exact hbody

/-! ## Fields -/

/-- The numbers of 32 bits, those of the targets included. -/
def singles (c : Config) : List Single :=
  [c.minSpeed, c.maxDecrease, c.maxIncrease, c.targetOffset, c.deadbandLow, c.deadbandHigh,
    c.targetFactor] ++ c.sensorTargets.entries.map Prod.snd

/-- A configuration with the value that another one has in a field. -/
def withField (c source : Config) : Field → Config
  | .minSpeed => { c with minSpeed := source.minSpeed }
  | .maxDecrease => { c with maxDecrease := source.maxDecrease }
  | .maxIncrease => { c with maxIncrease := source.maxIncrease }
  | .targetOffset => { c with targetOffset := source.targetOffset }
  | .deadbandLow => { c with deadbandLow := source.deadbandLow }
  | .deadbandHigh => { c with deadbandHigh := source.deadbandHigh }
  | .historyCapacity => { c with historyCapacity := source.historyCapacity }
  | .intervalSecs => { c with intervalSecs := source.intervalSecs }
  | .targetFactor => { c with targetFactor := source.targetFactor }
  | .exportPath => { c with exportPath := source.exportPath }
  | .simulation => { c with simulation := source.simulation }
  | .sensorTargets => { c with sensorTargets := source.sensorTargets }

/-- Taking every field from another configuration gives that one. -/
theorem foldl_withField_all (c source : Config) :
    Field.all.foldl (fun c field => c.withField source field) c = source := by
  simp only [Field.all, List.foldl_cons, List.foldl_nil, withField]

variable {c : Config}

theorem reads_into {α : Type} {read : Json.Reader α} {v : Json.Value} {a : α}
    (h : Reads read v a) (change : α → Config) : Reads (into change read) v (change a) :=
  h.map change

/-- What reading a configuration back asks of the numbers in it. -/
structure Readable (c : Config) : Prop where
  singles : ∀ x ∈ c.singles, ReadsBack x
  interval : ReadsBack c.intervalSecs
  capacity : c.historyCapacity < UInt64.size

theorem reads_field (h : c.Readable) (c₀ : Config) (field : Field) :
    Reads (c₀.readField field) (c.fieldValue field) (c₀.withField c field) := by
  have hsingle : ∀ x ∈ c.singles, ∀ change : Single → Config,
      Reads (into change Json.readSingle) (.single x) (change x) := fun x hx =>
    reads_into (Json.reads_single (h.singles x hx))
  have htargets : ∀ entry ∈ c.sensorTargets.entries, ReadsBack entry.2 := fun entry hentry =>
    h.singles entry.2 (List.mem_append_right _ (List.mem_map_of_mem hentry))
  cases field <;> simp only [readField, fieldValue, withField]
  case historyCapacity => exact reads_into (Json.reads_natural h.capacity) _
  case intervalSecs => exact reads_into (Json.reads_double h.interval) _
  case exportPath => exact reads_into (Json.reads_path c.exportPath) _
  case simulation => exact reads_into (Json.reads_bool c.simulation) _
  case sensorTargets => exact reads_into (reads_targets htargets) _
  -- the seven numbers of 32 bits
  all_goals exact hsingle _ (by simp [Config.singles]) _

theorem Field.ofName?_name (field : Field) : ofName? field.name = some field := by
  cases field <;> decide

theorem readMember_eq {seen : List Field} {field : Field} (hnew : field ∉ seen) (c₀ : Config)
    (s : List Char) :
    readMember (seen, c₀) field.name s = (Json.readColon s >>= fun s => do
      let (c, rest) ← c₀.readField field s
      return ((field :: seen, c), rest)) := by
  simp only [readMember, Field.ofName?_name, if_neg hnew]

/-- Fields that differ from each other and from those that were read. -/
theorem gathers_fields (h : c.Readable) (fields seen : List Field) (hnodup : fields.Nodup)
    (hnew : ∀ field ∈ fields, field ∉ seen) (c₀ : Config) :
    Gathers readMember (seen, c₀) (fields.map fun field => (field.name, c.fieldValue field))
      (fields.reverse ++ seen, fields.foldl (fun c₀ field => c₀.withField c field) c₀) := by
  induction fields generalizing seen c₀ with
  | nil => exact .nil (seen, c₀)
  | cons field fields ih =>
    obtain ⟨hfield, hnodup⟩ := List.nodup_cons.1 hnodup
    rw [List.reverse_cons, List.append_assoc]
    refine .cons (fun layout rest hrest => ?_)
      (ih (field :: seen) hnodup (fun other hother => ?_) (c₀.withField c field))
    · rw [readMember_eq (hnew field List.mem_cons_self)]
      exact ((reads_field h c₀ field).map fun c => (field :: seen, c)).afterColon layout hrest
    · rw [List.mem_cons, not_or]
      exact ⟨fun heq => hfield (heq ▸ hother), hnew other (List.mem_cons_of_mem _ hother)⟩

/-! ## The whole text -/

theorem reads_toValue (h : c.Readable) : Reads read c.toValue c := by
  intro layout blanks rest hblanks _
  have hgathers := gathers_fields h Field.all [] (by decide) (by simp) default
  obtain ⟨body, htext, hbody⟩ := Json.readObject_object hgathers layout rest
  rw [read, Json.skipBlanks_append hblanks, toValue, htext, Json.skipBlanks_cons rfl]
  simp only [hbody, foldl_withField_all, bind, Except.bind]
  rfl

/-- The written text is that of the configuration. -/
theorem ofText_pretty (h : c.Readable) : ofText (c.toValue.pretty ++ "\n") = .ok c := by
  have hends : Ends ['\n'] := .cons (by decide) (by decide) (by decide) (by decide)
  have hread : read (c.toValue.chars (some 0) ++ ['\n']) = .ok (c, ['\n']) :=
    reads_toValue h (some 0) [] ['\n'] (by simp) hends
  have htext : (c.toValue.pretty ++ "\n").toList = c.toValue.chars (some 0) ++ ['\n'] := by
    rw [String.toList_append, Json.Value.pretty, String.toList_ofList]
    rfl
  unfold ofText Json.ofText Json.readWholly
  rw [htext, hread]
  rfl

end Config

end ChassisCooling
