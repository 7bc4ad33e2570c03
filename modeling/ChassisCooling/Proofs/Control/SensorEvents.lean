import ChassisCooling.Machine.Basic
import ChassisCooling.Proofs.Control.Alike
import ChassisCooling.Proofs.Control.FreshReadings
import ChassisCooling.Proofs.HistoryLog

/-!
# What a sensor has been through

A sensor is read, is handed temperatures read elsewhere, and gets other capacities for its history.
Its temperature follows the latest read or record, however many samples were dropped before; its
history follows the samples alone, of which a read that shows nothing adds none.

* `Sensor.Event`: what may happen to a sensor.
* `Sensor.sample?`: the sample that an event leaves, by what the probe shows.
* `Sensor.history_applyAll`, `Sensor.temperature_applyAll`: history and temperature after events.
* `Sensor.applyAll_follows_events`: the main result.
-/

namespace ChassisCooling

open Binary

namespace Sensor

/-! ## Events -/

/-- What may happen to a sensor; `w` is the world at the time of a read. -/
inductive Event (World : Type) where
  | refresh (w : World) (now : Timestamp)
  | record (now : Timestamp) (value : Single)
  | setCapacity (asked : Nat)

section Events

variable {World Probe Drive Outlet : Type} (P : Platform World Probe Drive Outlet)

def apply (s : Sensor Probe) : Event World → Sensor Probe
  | .refresh w now => s.refresh P w now
  | .record now value => s.record now value
  | .setCapacity asked => s.setCapacity asked

/-- One event after the other. -/
def applyAll (s : Sensor Probe) (events : List (Event World)) : Sensor Probe :=
  events.foldl (apply P) s

/-- What the caller of an event is told: the temperature that was read or handed over. -/
def answer (s : Sensor Probe) : Event World → Option Single
  | .refresh w now => (s.poll P w now).1
  | .record _ value => some value
  | .setCapacity _ => none

/-- The sample that an event of a probe's sensor leaves: of a read only if it succeeds and shows a
finite temperature, of a temperature read elsewhere always. -/
def sample? (probe : Probe) : Event World → Option Sample
  | .refresh w now =>
    match P.temperature probe w with
    | .ok value => if value.isFinite then some ⟨now, value⟩ else none
    | .error _ => none
  | .record now value => some ⟨now, value⟩
  | .setCapacity _ => none

/-- Whether an event has a say in the temperature, be it by a failed read. -/
def Event.isReading : Event World → Bool
  | .refresh .. | .record .. => true
  | .setCapacity _ => false

/-- What an event changes in the history. -/
def change? (probe : Probe) : Event World → Option History.Change
  | .refresh w now => (sample? P probe (.refresh w now)).map (.record .measured)
  | .record now value => some (.record .measured ⟨now, value⟩)
  | .setCapacity asked => some (.setCapacity asked)

variable {P}

/-! ## One event -/

theorem probe_apply (s : Sensor Probe) (e : Event World) : (s.apply P e).probe = s.probe := by
  cases e with
  | refresh w now => exact probe_refresh P w now s
  | record now value => rfl
  | setCapacity asked => rfl

/-- A read leaves what it answers, if it answers anything. -/
theorem sample?_refresh (probe : Probe) (w : World) (now : Timestamp) :
    sample? P probe (.refresh w now) = (read? P probe w).map (Sample.mk now) := by
  simp only [sample?, read?]
  cases P.temperature probe w with
  | error e => rfl
  | ok value =>
    simp only
    split <;> rfl

theorem answer_eq (s : Sensor Probe) (e : Event World) :
    s.answer P e = (sample? P s.probe e).map Sample.value := by
  cases e with
  | refresh w now =>
    show (s.poll P w now).1 = _
    rw [poll_fst, sample?_refresh, Option.map_map]
    exact Option.map_id'.symm
  | record now value => rfl
  | setCapacity asked => rfl

theorem history_apply (s : Sensor Probe) (e : Event World) :
    (s.apply P e).history =
      match change? P s.probe e with
      | some change => s.history.apply change
      | none => s.history := by
  cases e with
  | refresh w now =>
    simp only [change?, sample?_refresh]
    show (s.refresh P w now).history = _
    rw [refresh_eq]
    cases read? P s.probe w <;> rfl
  | record now value => rfl
  | setCapacity asked => rfl

theorem temperature_setCapacity (s : Sensor Probe) (asked : Nat) :
    (s.setCapacity asked).temperature = s.temperature :=
  ((Alike.refl s).setCapacity_left asked).temperature_eq

/-- A capacity has no say in the temperature; any other event has the only one. -/
theorem temperature_apply (s : Sensor Probe) (e : Event World) :
    (s.apply P e).temperature =
      if e.isReading then (sample? P s.probe e).map Sample.value else s.temperature := by
  rw [← answer_eq]
  cases e with
  | refresh w now => exact (temperature_refresh P w now s).trans (poll_fst P w now s).symm
  | record now value => exact History.lastMeasured_recordMeasured s.history now value
  | setCapacity asked => exact temperature_setCapacity s asked

/-! ## All events -/

theorem probe_applyAll (s : Sensor Probe) (events : List (Event World)) :
    (s.applyAll P events).probe = s.probe := by
  induction events generalizing s with
  | nil => rfl
  | cons e events ih => exact (ih (s.apply P e)).trans (probe_apply s e)

theorem history_applyAll (s : Sensor Probe) (events : List (Event World)) :
    (s.applyAll P events).history = s.history.applyAll (events.filterMap (change? P s.probe)) := by
  induction events generalizing s with
  | nil => rfl
  | cons e events ih =>
    show ((s.apply P e).applyAll P events).history = _
    rw [ih, probe_apply, history_apply, List.filterMap_cons]
    cases change? P s.probe e <;> rfl

/-- By induction on the events. An event that is a reading makes those before it void, and is void
itself if another one follows. -/
theorem temperature_applyAll (s : Sensor Probe) (events : List (Event World)) :
    (s.applyAll P events).temperature =
      match (events.filter Event.isReading).getLast? with
      | some e => (sample? P s.probe e).map Sample.value
      | none => s.temperature := by
  induction events generalizing s with
  | nil => rfl
  | cons e events ih =>
    show ((s.apply P e).applyAll P events).temperature = _
    rw [ih, probe_apply, temperature_apply, List.filter_cons]
    by_cases he : e.isReading = true
    · rw [if_pos he, if_pos he, List.getLast?_cons]
      cases (events.filter Event.isReading).getLast? <;> rfl
    · rw [if_neg he, if_neg he]

/-! ## The log of a sensor -/

theorem setCapacity_mem_of_change? {probe : Probe} {events : List (Event World)} {asked : Nat}
    (h : .setCapacity asked ∈ events.filterMap (change? P probe)) :
    .setCapacity asked ∈ events := by
  obtain ⟨e, he, heq⟩ := List.mem_filterMap.1 h
  cases e with
  | refresh w now =>
    obtain ⟨sample, -, hsample⟩ := Option.map_eq_some_iff.1 heq
    cases hsample
  | record now value => cases heq
  | setCapacity asked' =>
    obtain ⟨⟩ := heq
    exact he

/-- What a sensor's history logs: the samples of its events, and no commands. -/
def log (P : Platform World Probe Drive Outlet) (probe : Probe) (events : List (Event World)) :
    Stream → List Sample
  | .measured => events.filterMap (sample? P probe)
  | .commanded => []

/-- The sample that an event leaves is what is recorded of it. -/
theorem change?_bind_measured (probe : Probe) (e : Event World) :
    (change? P probe e).bind (History.Change.sample? .measured) = sample? P probe e := by
  cases e with
  | refresh w now =>
    simp only [change?]
    cases sample? P probe (.refresh w now) <;> rfl
  | record now value => rfl
  | setCapacity asked => rfl

/-- Nothing is ever commanded of a sensor. -/
theorem change?_bind_commanded (probe : Probe) (e : Event World) :
    (change? P probe e).bind (History.Change.sample? .commanded) = none := by
  cases e with
  | refresh w now =>
    simp only [change?]
    cases sample? P probe (.refresh w now) <;> rfl
  | record now value => rfl
  | setCapacity asked => rfl

theorem logged_eq_log (probe : Probe) (events : List (Event World)) (stream : Stream) :
    History.Change.logged stream (events.filterMap (change? P probe)) =
      log P probe events stream := by
  rw [History.Change.logged_eq_filterMap, List.filterMap_filterMap]
  cases stream with
  | measured => exact List.filterMap_congr fun e _ => change?_bind_measured probe e
  | commanded => exact List.filterMap_eq_nil_iff.2 fun e _ => change?_bind_commanded probe e

/-! ## The main result -/

/-- A new sensor of a probe after events; `first` is the capacity that its history was asked for
when it was new. -/
structure FollowsEvents (P : Platform World Probe Drive Outlet) (s : Sensor Probe) (probe : Probe)
    (first : Nat) (events : List (Event World)) : Prop where
  sameProbe : s.probe = probe
  name : s.name = P.probeName probe
  /-- The last reading alone has a say, and a failed one leaves no temperature. -/
  temperature : s.temperature =
    match (events.filter Event.isReading).getLast? with
    | some e => (sample? P probe e).map Sample.value
    | none => none
  history : s.history = (History.empty (P.probeName probe) first).applyAll
    (events.filterMap (change? P probe))
  follows : s.history.Follows (log P probe events)
    (History.Change.lastAsked first (events.filterMap (change? P probe)))
  /-- Nothing of the log is lost for which there was room all the time. -/
  kept : ∀ bound, bound ≤ max 3 first →
    (∀ asked, .setCapacity asked ∈ events → bound ≤ max 3 asked) →
    keepNewest bound s.history.measured = keepNewest bound (events.filterMap (sample? P probe))

/-- What the next event of a sensor answers and changes. -/
structure Responds (P : Platform World Probe Drive Outlet) (s : Sensor Probe) : Prop where
  /-- A read answers what it records, and nothing if it records nothing. -/
  refresh : ∀ w now value, s.answer P (.refresh w now) = some value ↔
    s.apply P (.refresh w now) = s.record now value
  answer : ∀ e, s.answer P e = (sample? P s.probe e).map Sample.value
  record : ∀ now value, (s.record now value).temperature = some value ∧
    (s.record now value).history.lastMeasured = some value
  failed : ∀ w now, sample? P s.probe (.refresh w now) = none →
    (s.apply P (.refresh w now)).history = s.history ∧
      (s.apply P (.refresh w now)).temperature = none
  setCapacity : ∀ asked,
    (s.apply P (.setCapacity asked)).history.lastMeasured = s.history.lastMeasured ∧
      (s.apply P (.setCapacity asked)).temperature = s.temperature

theorem refresh_eq_record_iff {s : Sensor Probe} {w : World} {now : Timestamp} {value : Single} :
    s.refresh P w now = s.record now value ↔ read? P s.probe w = some value := by
  constructor
  · intro h
    have htemperature := congrArg temperature h
    rw [temperature_refresh] at htemperature
    exact htemperature.trans (History.lastMeasured_recordMeasured s.history now value)
  · intro h
    rw [refresh_eq, h]

theorem responds (s : Sensor Probe) : s.Responds P where
  refresh w now value := by
    show (s.poll P w now).1 = some value ↔ _
    rw [poll_fst]
    exact refresh_eq_record_iff.symm
  answer := answer_eq s
  record now value :=
    have hlast := History.lastMeasured_recordMeasured s.history now value
    ⟨hlast, hlast⟩
  failed w now h := by
    have hchange : change? P s.probe (.refresh w now) = none := congrArg (Option.map _) h
    rw [history_apply, hchange, temperature_apply, h]
    exact ⟨rfl, rfl⟩
  setCapacity asked :=
    ⟨((Alike.refl s).setCapacity_left asked).history.lastMeasured_eq,
      temperature_setCapacity s asked⟩

/-- After any events a new sensor shows what the last reading showed; its history follows the
samples that the events left; and a read answers just what it records. -/
theorem applyAll_follows_events {capacity : Nat} {probe : Probe} {s : Sensor Probe}
    (h : wrap P capacity probe = .ok s) (events : List (Event World)) :
    (s.applyAll P events).FollowsEvents P probe capacity events ∧
      (s.applyAll P events).Responds P := by
  obtain rfl := wrap_eq_ok P h
  refine ⟨?_, responds _⟩
  have hhistory := history_applyAll (P := P)
    ⟨probe, .empty (P.probeName probe) capacity, false⟩ events
  refine { sameProbe := probe_applyAll _ events, name := ?_, temperature := ?_,
           history := hhistory, follows := ?_, kept := ?_ }
  · show History.name _ = _
    rw [hhistory, History.name_applyAll]
    rfl
  · exact temperature_applyAll _ events
  · rw [hhistory]
    refine History.follows_of_holds (History.capacity_applyAll rfl _) fun stream => ?_
    have hnew : Holds [] ((History.empty (P.probeName probe) capacity).samples stream) := by
      cases stream <;> exact .nil
    rw [← logged_eq_log]
    exact History.holds_applyAll hnew _
  · intro bound hfirst hasked
    show keepNewest bound _ = keepNewest bound (log P probe events .measured)
    rw [hhistory, ← logged_eq_log]
    have hnew : keepNewest bound ((History.empty (P.probeName probe) capacity).samples .measured) =
        keepNewest bound [] :=
      rfl
    refine History.keepNewest_applyAll hnew ?_ fun asked hmem => ?_
    · exact hfirst.trans (Nat.le_of_eq (Nat.max_comm 3 capacity))
    · exact (hasked asked (setCapacity_mem_of_change? hmem)).trans
        (Nat.le_of_eq (Nat.max_comm 3 asked))

end Events

/-- A good read, a temperature from elsewhere, a smaller capacity and a failed read: there is no
temperature, but the two samples are kept. -/
theorem applyAll_follows_failed_read :
    let bench (temperature : Option Single) : Machine :=
      { Machine.blank with bench := ⟨[⟨"cpu", temperature, ⟨none, none, none⟩⟩], []⟩ }
    let cpu : Probe := .simulated 0 "cpu"
    let events : List (Event Machine) :=
      [.refresh (bench (some (ofNat 60))) (ofNat 1), .record (ofNat 2) (ofNat 70), .setCapacity 1,
        .refresh (bench none) (ofNat 3)]
    ∃ s s' : Sensor Probe,
      wrap Machine.platform 10 cpu = .ok s ∧ s.applyAll Machine.platform events = s' ∧
      s'.FollowsEvents Machine.platform cpu 10 events ∧ s'.Responds Machine.platform ∧
      s'.temperature = none ∧
      s'.history.measured = [⟨ofNat 1, ofNat 60⟩, ⟨ofNat 2, ofNat 70⟩] := by
  intro bench cpu events
  obtain ⟨s, h⟩ : ∃ s, wrap Machine.platform 10 cpu = .ok s := ⟨_, rfl⟩
  obtain ⟨hfollows, hresponds⟩ := applyAll_follows_events h events
  refine ⟨s, _, h, rfl, hfollows, hresponds, ?_, ?_⟩
  · rw [hfollows.temperature]
    rfl
  · rw [hfollows.history]
    decide +kernel

end Sensor

end ChassisCooling
