import ChassisCooling.Proofs.Hwmon.FanFiles

/-!
# Calls for a speed

Others may change the files of a channel in any way between two calls. As long as the mode cannot be
switched, calls are refused and write nothing. The first one that is not refused takes control of
the channel, also if its duty cycle cannot be written, and from then on the mode is left alone.

* `FanChannel.calls`: one call after the other, each on the tree that it meets.
* `FanChannel.Refused`, `FanChannel.TakesControl`, `Call.SetsDuty`: what a call can come to.
* `FanChannel.exists_phases`: refused calls, one that takes control, and calls without that step.
-/

namespace ChassisCooling.Hwmon

open Files (Tree)

/-- One call: the tree that it met, the speed it was for, what came of it, and the tree it left. -/
structure Call where
  met : Tree
  speed : Single
  result : Except Error Unit
  left : Tree

/-- A duty cycle is written to a tree, or could not be. Nothing else was tried. -/
inductive Call.SetsDuty (call : Call) (path : String) (ready : Tree) : Prop where
  | written (h : ready.writeText path (FanChannel.dutyText call.speed) = .ok call.left)
      (hresult : call.result = .ok ())
  | failed {failure : Files.Failure}
      (h : ready.writeText path (FanChannel.dutyText call.speed) = .error failure)
      (hresult : call.result = .error (.pwmWrite path
        ("Failed to write PWM value " ++ FanChannel.dutyText call.speed ++ ": " ++
          failure.message)))
      (hleft : call.left = ready)

namespace FanChannel

variable {c : FanChannel} {t ready : Tree} {speed : Single}

/-- Calls one after the other. Each has its own tree to meet. -/
def calls (c : FanChannel) : List (Tree × Single) → List Call
  | [] => []
  | (t, speed) :: inputs =>
    let (result, c, left) := c.setSpeed speed t
    ⟨t, speed, result, left⟩ :: calls c inputs

/-- There is an enable file, but it cannot be written. Nothing else was tried. -/
structure Refused (c : FanChannel) (call : Call) : Prop where
  holds : call.met.holds c.enablePath
  error : ∃ failure, call.met.writeText c.enablePath manualMode = .error failure ∧
    call.result = .error (.pwmWrite c.enablePath
      ("Failed to enable manual PWM control: " ++ failure.message))
  left : call.left = call.met

/-- From one tree to the next, control is taken. -/
inductive TakesControl (c : FanChannel) (t : Tree) : Tree → Prop where
  | absent (h : ¬t.holds c.enablePath) : TakesControl c t t
  | switched {ready : Tree} (h : t.holds c.enablePath)
      (hwrite : t.writeText c.enablePath manualMode = .ok ready) : TakesControl c t ready

/-- Calls in two parts: refused ones, and those from the one on that takes control. -/
structure Phases (c : FanChannel) (refused rest : List Call) : Prop where
  refused : ∀ x ∈ refused, c.Refused x
  taken : ∀ x ∈ rest.head?, ∃ ready, c.TakesControl x.met ready ∧ x.SetsDuty c.dutyPath ready
  kept : ∀ x ∈ rest.tail, x.SetsDuty c.dutyPath x.met

/-! ## One call -/

theorem takeControl_of_manual (h : c.manual = true) (t : Tree) :
    c.takeControl t = (.ok (), c, t) := by
  unfold takeControl
  rw [if_pos h]

theorem takeControl_cases (h : c.manual = false) (t : Tree) :
    (∃ failure, t.holds c.enablePath ∧ t.writeText c.enablePath manualMode = .error failure ∧
      c.takeControl t = (.error (.pwmWrite c.enablePath
        ("Failed to enable manual PWM control: " ++ failure.message)), c, t)) ∨
    ∃ ready, c.TakesControl t ready ∧
      c.takeControl t = (.ok (), { c with manual := true }, ready) := by
  unfold takeControl
  rw [h, if_neg Bool.false_ne_true]
  by_cases hholds : t.holds c.enablePath
  · rw [if_pos hholds]
    cases hwrite : t.writeText c.enablePath manualMode with
    | error failure => exact .inl ⟨failure, hholds, rfl, rfl⟩
    | ok ready => exact .inr ⟨ready, .switched hholds hwrite, rfl⟩
  · rw [if_neg hholds]
    exact .inr ⟨t, .absent hholds, rfl⟩

theorem setSpeed_eq (c : FanChannel) (speed : Single) (t : Tree) :
    c.setSpeed speed t =
      match c.takeControl t with
      | (.error e, c, t) => (.error e, c, t)
      | (.ok (), c, t) =>
        match t.writeText c.dutyPath (dutyText speed) with
        | .ok t => (.ok (), c, t)
        | .error failure =>
          (.error (.pwmWrite c.dutyPath
            ("Failed to write PWM value " ++ dutyText speed ++ ": " ++ failure.message)), c, t) :=
  rfl

/-- Once the channel is under control, the duty cycle is written. -/
theorem setSpeed_of_takeControl {c' : FanChannel} (h : c.takeControl t = (.ok (), c', ready))
    (speed : Single) :
    ∃ result left, c.setSpeed speed t = (result, c', left) ∧
      Call.SetsDuty ⟨t, speed, result, left⟩ c'.dutyPath ready := by
  rw [setSpeed_eq, h]
  cases hwrite : ready.writeText c'.dutyPath (dutyText speed) with
  | ok left =>
    simp only [hwrite]
    exact ⟨_, _, rfl, .written hwrite rfl⟩
  | error failure =>
    simp only [hwrite]
    exact ⟨_, _, rfl, .failed hwrite rfl rfl⟩

/-- A channel that is not yet under control stays as it is, or comes under control. -/
theorem setSpeed_cases (h : c.manual = false) (speed : Single) (t : Tree) :
    (∃ result, c.setSpeed speed t = (result, c, t) ∧ c.Refused ⟨t, speed, result, t⟩) ∨
    ∃ result ready left, c.setSpeed speed t = (result, { c with manual := true }, left) ∧
      c.TakesControl t ready ∧ Call.SetsDuty ⟨t, speed, result, left⟩ c.dutyPath ready := by
  rcases takeControl_cases h t with ⟨failure, hholds, hwrite, htake⟩ | ⟨ready, htaken, htake⟩
  · refine .inl ⟨_, ?_, hholds, ⟨failure, hwrite, rfl⟩, rfl⟩
    rw [setSpeed_eq, htake]
  · obtain ⟨result, left, hset, hduty⟩ := setSpeed_of_takeControl htake speed
    exact .inr ⟨result, ready, left, hset, htaken, hduty⟩

/-! ## All calls -/

/-- There is one call for each input. -/
theorem map_calls (c : FanChannel) (inputs : List (Tree × Single)) :
    (c.calls inputs).map (fun x => (x.met, x.speed)) = inputs := by
  induction inputs generalizing c with
  | nil => rfl
  | cons input inputs ih => exact congrArg (List.cons input) (ih _)

theorem calls_cons {c' : FanChannel} {result : Except Error Unit} {left : Tree}
    (h : c.setSpeed speed t = (result, c', left)) (inputs : List (Tree × Single)) :
    c.calls ((t, speed) :: inputs) = ⟨t, speed, result, left⟩ :: c'.calls inputs := by
  rw [calls, h]

theorem calls_of_manual (h : c.manual = true) (inputs : List (Tree × Single)) :
    ∀ x ∈ c.calls inputs, x.SetsDuty c.dutyPath x.met := by
  induction inputs with
  | nil => simp [calls]
  | cons input inputs ih =>
    obtain ⟨t, speed⟩ := input
    obtain ⟨result, left, hset, hduty⟩ :=
      setSpeed_of_takeControl (takeControl_of_manual h t) speed
    rw [calls_cons hset]
    exact List.forall_mem_cons.2 ⟨hduty, ih⟩

/-- By induction on the calls: a refused one leaves the channel as it was, and after the first that
takes control no other one does. -/
theorem exists_phases (h : c.manual = false) (inputs : List (Tree × Single)) :
    ∃ refused rest, c.calls inputs = refused ++ rest ∧ c.Phases refused rest := by
  induction inputs with
  | nil => exact ⟨[], [], rfl, by simp, by simp, by simp⟩
  | cons input inputs ih =>
    obtain ⟨t, speed⟩ := input
    rcases setSpeed_cases h speed t with
      ⟨result, hset, hrefused⟩ | ⟨result, ready, left, hset, htaken, hduty⟩
    · obtain ⟨refused, rest, heq, hphases⟩ := ih
      rw [calls_cons hset, heq]
      have hall := List.forall_mem_cons.2 ⟨hrefused, hphases.refused⟩
      exact ⟨_ :: refused, rest, rfl, hall, hphases.taken, hphases.kept⟩
    · have hlater : ∀ x ∈ calls { c with manual := true } inputs, x.SetsDuty c.dutyPath x.met :=
        calls_of_manual rfl inputs
      rw [calls_cons hset]
      refine ⟨[], _, rfl, by simp, fun x hx => ?_, hlater⟩
      obtain rfl := Option.some.inj hx
      exact ⟨ready, htaken, hduty⟩

end FanChannel

end ChassisCooling.Hwmon
