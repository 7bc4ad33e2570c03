import ChassisCooling.Config.Load
import ChassisCooling.Proofs.Config.Valid

/-!
# What loading gives

A configuration that was loaded has passed its checks, so a second check accepts it as well. If
nothing could be loaded, the file could not be read as text, or the text is not a configuration, or
a field of it has failed its check.

* `Config.validate_of_load`: a second check.
* `Config.load_eq_error_iff`: the reasons for failure.
-/

namespace ChassisCooling.Config

variable {t : Files.Tree} {path : String}

theorem validate_of_ofValidText {text : String} {c : Config} (h : ofValidText text = .ok c) :
    c.validate = .ok () := by
  unfold ofValidText at h
  rw [bind_eq_ok_iff] at h
  obtain ⟨c', -, h⟩ := h
  rw [check_bind_eq_ok_iff] at h
  obtain ⟨hvalid, heq⟩ := h
  rw [← Except.ok.inj heq]
  exact hvalid

theorem validate_of_load {c : Config} (h : load t path = .ok c) : c.validate = .ok () := by
  unfold load at h
  split at h
  · rw [← Except.ok.inj h]
    exact validate_default
  · rw [bind_eq_ok_iff] at h
    obtain ⟨text, -, h⟩ := h
    exact validate_of_ofValidText h

/-! ## Failure -/

theorem validate_eq_error_iff {c : Config} {e : Error} :
    c.validate = .error e ↔ ∃ problem, c.check = .error problem ∧ problem.toError = e := by
  unfold validate
  rw [mapError_eq_error_iff]

/-- Why the file of a path gives no configuration, with the error that is reported. -/
inductive Unloadable (t : Files.Tree) (path : String) : Error → Prop where
  /-- It cannot be read, or what it holds is no text. -/
  | unreadable {failure : Files.Failure} (h : t.readText path = .error failure) :
      Unloadable t path (.fileRead path failure)
  /-- The text breaks the rules, or has another shape. -/
  | malformed {text : String} {fault : Json.TextError} (h : t.readText path = .ok text)
      (hform : ofText text = .error fault) : Unloadable t path (.jsonParse fault)
  /-- A field fails its check. -/
  | invalid {text : String} {c : Config} {problem : Problem} (h : t.readText path = .ok text)
      (hform : ofText text = .ok c) (hcheck : c.check = .error problem) :
      Unloadable t path problem.toError

theorem ofValidText_eq_error_iff {text : String} {e : Error} :
    ofValidText text = .error e ↔
      (∃ fault, ofText text = .error fault ∧ .jsonParse fault = e) ∨
        ∃ c problem, ofText text = .ok c ∧ c.check = .error problem ∧ problem.toError = e := by
  unfold ofValidText
  simp only [bind_eq_error_iff, mapError_eq_error_iff, mapError_eq_ok_iff, validate_eq_error_iff,
    pure, Except.pure, reduceCtorEq, and_false, exists_false, or_false]
  simp only [← exists_and_left]

theorem load_eq_error_iff {e : Error} :
    load t path = .error e ↔ t.holds path ∧ Unloadable t path e := by
  unfold load
  split
  · next habsent =>
    constructor
    · intro h
      cases h
    · intro h
      exact absurd h.1 habsent
  · next hpresent =>
    rw [not_not] at hpresent
    simp only [bind_eq_error_iff, mapError_eq_error_iff, mapError_eq_ok_iff,
      ofValidText_eq_error_iff, hpresent, true_and]
    constructor
    · rintro (⟨failure, h, rfl⟩ | ⟨text, h, ⟨fault, hform, rfl⟩ | ⟨c, problem, hform, hcheck, rfl⟩⟩)
      · exact .unreadable h
      · exact .malformed h hform
      · exact .invalid h hform hcheck
    · intro h
      cases h with
      | unreadable h => exact .inl ⟨_, h, rfl⟩
      | malformed h hform => exact .inr ⟨_, h, .inl ⟨_, hform, rfl⟩⟩
      | invalid h hform hcheck => exact .inr ⟨_, h, .inr ⟨_, _, hform, hcheck, rfl⟩⟩

end ChassisCooling.Config
