import ChassisCooling.Proofs.Files.Elsewhere
import ChassisCooling.Proofs.Hwmon.Calls
import Mathlib.Data.List.Chain

/-!
# The mode of a fan

A channel's mode is switched once. Whoever puts it back to automatic later is not noticed, and duty
cycles are written all the same.

* `FanChannel.InManualMode`: there is no enable file, or it says so.
* `FanChannel.duty_written_in_automatic_mode`: a duty cycle that is written in another mode.
* `FanChannel.manual_unless_rewritten`: the mode is manual as long as nobody else writes the enable
  file.
-/

namespace ChassisCooling.Hwmon

open Files (Tree)

namespace FanChannel

variable {c : FanChannel} {t ready : Tree} {x : Call}

/-- There is no enable file, or it says that the fan is under control. -/
def InManualMode (c : FanChannel) (t : Tree) : Prop :=
  t.shown c.enablePath = none ∨ t.shown c.enablePath = some (.ok "1")

instance (c : FanChannel) (t : Tree) : Decidable (c.InManualMode t) :=
  inferInstanceAs (Decidable (_ ∨ _))

/-- Between two calls nobody else changed what the enable file shows. -/
def Undisturbed (c : FanChannel) (earlier later : Call) : Prop :=
  later.met.shown c.enablePath = earlier.left.shown c.enablePath

/-- Without links the two files of a channel are never one. -/
theorem apart_of_linkFree (ht : t.LinkFree) (chip directory : String) (index : Nat) :
    t.Apart (ofIndex chip directory index).enablePath (ofIndex chip directory index).dutyPath :=
  ht.apart (place_enablePath_ne t.start chip directory index)

/-! ## One call -/

theorem shown_of_setsDuty (h : x.SetsDuty c.dutyPath ready)
    (hapart : ready.Apart c.enablePath c.dutyPath) :
    x.left.shown c.enablePath = ready.shown c.enablePath := by
  cases h with
  | written hwrite _ => exact hapart.shown_eq hwrite
  | failed _ _ hleft => rw [hleft]

theorem inManualMode_of_takesControl (h : c.TakesControl t ready)
    (hapart : t.Apart c.enablePath c.dutyPath) :
    c.InManualMode ready ∧ ready.Apart c.enablePath c.dutyPath := by
  cases h with
  | absent habsent => exact ⟨.inl (Tree.shown_eq_none habsent), hapart⟩
  | switched _ hwrite =>
    exact ⟨.inr (Tree.shown_of_writeText hwrite), hapart.of_writeText hwrite⟩

/-! ## Several calls -/

/-- By induction on the calls that follow one in manual mode. -/
theorem inManualMode_of_chain {first : Call} {later : List Call}
    (hfirst : c.InManualMode first.left) (hlater : ∀ x ∈ later, x.SetsDuty c.dutyPath x.met)
    (hapart : ∀ x ∈ later, x.met.Apart c.enablePath c.dutyPath)
    (hchain : (first :: later).IsChain c.Undisturbed) :
    ∀ x ∈ first :: later, c.InManualMode x.left := by
  induction later generalizing first with
  | nil =>
    intro x hx
    rwa [List.mem_singleton.1 hx]
  | cons next later ih =>
    rw [List.forall_mem_cons] at hlater hapart
    rw [List.isChain_cons_cons] at hchain
    have hnext : c.InManualMode next.left := by
      unfold InManualMode
      rw [shown_of_setsDuty hlater.1 hapart.1, hchain.1]
      exact hfirst
    exact List.forall_mem_cons.2 ⟨hfirst, ih hnext hlater.2 hapart.2 hchain.2⟩

theorem Phases.inManualMode {refused since : List Call} (h : c.Phases refused since)
    (hapart : ∀ x ∈ since, x.met.Apart c.enablePath c.dutyPath)
    (hchain : since.IsChain c.Undisturbed) : ∀ x ∈ since, c.InManualMode x.left := by
  cases since with
  | nil => simp
  | cons first later =>
    rw [List.forall_mem_cons] at hapart
    obtain ⟨ready, htaken, hduty⟩ := h.taken first rfl
    obtain ⟨hmode, hready⟩ := inManualMode_of_takesControl htaken hapart.1
    refine inManualMode_of_chain ?_ h.kept hapart.2 hchain
    unfold InManualMode
    rw [shown_of_setsDuty hduty hready]
    exact hmode

theorem take_calls (c : FanChannel) (inputs : List (Tree × Single)) (n : Nat) :
    (c.calls inputs).take n = c.calls (inputs.take n) := by
  induction inputs generalizing c n with
  | nil => simp [calls]
  | cons input inputs ih =>
    cases n with
    | zero => rfl
    | succ n => exact congrArg (List.cons _) (ih _ n)

/-- A chip whose fan is under automatic control. -/
def automaticChip : Tree :=
  ⟨[(["work"], .directory), (["work", "hw"], .directory),
    (["work", "hw", "pwm1"], .file "0".toUTF8),
    (["work", "hw", "pwm1_enable"], .file "2\n".toUTF8)], ["work"]⟩

/-- After the first call, the enable file is put back to what it held before. The second call
succeeds and leaves it so. -/
theorem duty_written_in_automatic_mode :
    let c := ofIndex "nct6775" "hw" 1
    let left := (c.setSpeed (.ofNat 50) automaticChip).2.2
    let rewritten := left.set ["work", "hw", "pwm1_enable"] (.file "2\n".toUTF8)
    ∃ x ∈ c.calls [(automaticChip, .ofNat 50), (rewritten, .ofNat 60)],
      x.result = .ok () ∧ x.left.readText "hw/pwm1" = .ok "153" ∧ ¬c.InManualMode x.left := by
  decide +kernel

/-- A call that succeeds comes with or after one that took control: that call found no enable file,
or wrote to it what it had to. All calls since then only wrote the duty cycle. So the mode is manual
unless somebody else has written the enable file since, or the two files are one. -/
theorem manual_unless_rewritten (chip directory : String) (index : Nat)
    (inputs : List (Tree × Single)) {earlier later : List Call} {call : Call}
    (hcalls : (ofIndex chip directory index).calls inputs = earlier ++ call :: later)
    (hok : call.result = .ok ()) :
    let c := ofIndex chip directory index
    ∃ refused since, earlier ++ [call] = refused ++ since ∧ since ≠ [] ∧
      c.Phases refused since ∧
      ((∀ x ∈ since, x.met.Apart c.enablePath c.dutyPath) → since.IsChain c.Undisturbed →
        c.InManualMode call.left) := by
  intro c
  have hinitial : c.calls (inputs.take (earlier.length + 1)) = earlier ++ [call] := by
    rw [← take_calls, hcalls, List.append_cons]
    exact List.take_left' (by simp)
  obtain ⟨refused, since, heq, hphases⟩ :=
    exists_phases (c := c) rfl (inputs.take (earlier.length + 1))
  rw [hinitial] at heq
  have hlast : call ∈ since := by
    have hmem : call ∈ refused ++ since := heq ▸ List.mem_concat_self
    rcases List.mem_append.1 hmem with hrefused | hsince
    · obtain ⟨failure, -, hresult⟩ := (hphases.refused call hrefused).error
      rw [hok] at hresult
      cases hresult
    · exact hsince
  exact ⟨refused, since, heq, List.ne_nil_of_mem hlast, hphases,
    fun hapart hchain => hphases.inManualMode hapart hchain call hlast⟩

/-- The duty cycle of the first call cannot be written, but the call takes control. Somebody else
mends the file of the duty cycle before the second call. -/
theorem manual_after_mended_duty_file :
    let c := ofIndex "nct6775" "hw" 1
    let chip (duty : Files.Node) (mode : String) : Tree :=
      ⟨[(["work"], .directory), (["work", "hw"], .directory), (["work", "hw", "pwm1"], duty),
        (["work", "hw", "pwm1_enable"], .file mode.toUTF8)], ["work"]⟩
    let inputs := [(chip .directory "2\n", .ofNat 50), (chip (.file "0".toUTF8) "1", .ofNat 60)]
    ∃ first call, c.calls inputs = [first] ++ call :: [] ∧ first.result ≠ .ok () ∧
      call.result = .ok () ∧ (∀ x ∈ [first, call], x.met.Apart c.enablePath c.dutyPath) ∧
      [first, call].IsChain c.Undisturbed ∧ c.InManualMode call.left := by
  intro c chip inputs
  have hfree : ∀ duty mode, (∀ target, duty ≠ .link target) → (chip duty mode).LinkFree :=
    fun duty mode hduty => Tree.linkFree_of_entries (by simpa [chip] using hduty)
  obtain ⟨first, call, hcalls, hfirst, hok, hmet, hmet', hchain⟩ : ∃ first call,
      c.calls inputs = [first] ++ call :: [] ∧ first.result ≠ .ok () ∧ call.result = .ok () ∧
        first.met.LinkFree ∧ call.met.LinkFree ∧ [first, call].IsChain c.Undisturbed := by
    refine ⟨_, _, rfl, by decide +kernel, by decide +kernel, hfree _ _ (by simp),
      hfree _ _ (by simp), List.isChain_pair.2 ?_⟩
    unfold Undisturbed
    decide +kernel
  have hapart : ∀ x ∈ [first, call], x.met.Apart c.enablePath c.dutyPath := by
    rw [List.forall_mem_cons, List.forall_mem_singleton]
    exact ⟨apart_of_linkFree hmet _ _ _, apart_of_linkFree hmet' _ _ _⟩
  obtain ⟨refused, since, heq, -, -, hmode⟩ :=
    manual_unless_rewritten "nct6775" "hw" 1 inputs hcalls hok
  refine ⟨first, call, hcalls, hfirst, hok, hapart, hchain, hmode ?_ ?_⟩
  · intro x hx
    refine hapart x ?_
    show x ∈ [first] ++ [call]
    rw [heq]
    exact List.mem_append_right refused hx
  · have hall : (refused ++ since).IsChain c.Undisturbed := heq ▸ hchain
    exact hall.right_of_append

end FanChannel

end ChassisCooling.Hwmon
