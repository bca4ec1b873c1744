import Transit.Realtime.Alert
set_option autoImplicit false

/-!
# When an alert is active

The bounds of a published period are unsigned, and one that is beyond the signed range is dropped.
This makes no difference for an end, which no present can pass, but a period that has yet to begin
counts as begun (`ActivePeriod.Misread`). Where no such period misleads (`AlertMessage.Faithful`), and
only there, an alert is active exactly when it is published to be, and so are the alerts of a
selection (`Alert.active_as_published_iff`).
-/

namespace Transit

namespace Realtime

namespace ActivePeriod

/-- A moment lies in the period as published. -/
def Holds (p : ActivePeriod) (unix : Int) : Prop :=
  (∀ s ∈ p.start, (s : Int) ≤ unix) ∧ ∀ e ∈ p.stop, unix ≤ (e : Int)

instance (p : ActivePeriod) (unix : Int) : Decidable (p.Holds unix) :=
  inferInstanceAs (Decidable ((∀ s ∈ p.start, (s : Int) ≤ unix) ∧ ∀ e ∈ p.stop, unix ≤ (e : Int)))

/-- The period begins beyond the signed range, and a moment does not lie after its end. -/
def Misread (p : ActivePeriod) (unix : Int) : Prop :=
  (∃ s ∈ p.start, Number.Range.int64.hi < (s : Int)) ∧ ∀ e ∈ p.stop, unix ≤ (e : Int)

end ActivePeriod

namespace AlertMessage

/-- The alert has no periods, or a moment lies in one of them. -/
def Active (a : AlertMessage) (unix : Int) : Prop :=
  a.activePeriods = [] ∨ ∃ p ∈ a.activePeriods, p.Holds unix

instance (a : AlertMessage) (unix : Int) : Decidable (a.Active unix) :=
  inferInstanceAs (Decidable (a.activePeriods = [] ∨ ∃ p ∈ a.activePeriods, p.Holds unix))

/-- No period makes the alert seem active when it is not. -/
def Faithful (a : AlertMessage) (unix : Int) : Prop :=
  (∃ p ∈ a.activePeriods, p.Misread unix) → a.Active unix

end AlertMessage

end Realtime

open Realtime

namespace Alert

variable {unix : Int} {a : AlertMessage}

theorem signedBound_some (n : Nat) :
    signedBound (some n) = if (n : Int) ≤ Number.Range.int64.hi then some (n : Int) else none := by
  have low : Number.Range.int64.lo ≤ (n : Int) := Int.le_trans (by decide) (Int.natCast_nonneg n)
  unfold signedBound
  rw [Option.bind_some]
  by_cases fits : (n : Int) ≤ Number.Range.int64.hi
  · rw [if_pos fits, if_pos (Number.Range.holds_iff.mpr ⟨low, fits⟩)]
  · rw [if_neg fits, if_neg fun inside => fits (Number.Range.holds_iff.mp inside).2]

/-- A start beyond the signed range is taken for one that has passed. -/
theorem started_iff (start : Option Nat) :
    (signedBound start).all (· ≤ unix) = true ↔
      (∀ s ∈ start, (s : Int) ≤ unix) ∨ ∃ s ∈ start, Number.Range.int64.hi < (s : Int) := by
  cases start with
  | none => simp [signedBound]
  | some n =>
    rw [signedBound_some]
    by_cases fits : (n : Int) ≤ Number.Range.int64.hi
    · simp [fits, Int.not_lt.mpr fits]
    · simp [fits, Int.not_le.mp fits]

/-- An end beyond the signed range is as good as none. -/
theorem unended_iff (signed : unix ≤ Number.Range.int64.hi) (stop : Option Nat) :
    (signedBound stop).all (unix ≤ ·) = true ↔ ∀ e ∈ stop, unix ≤ (e : Int) := by
  cases stop with
  | none => simp [signedBound]
  | some n =>
    rw [signedBound_some]
    by_cases fits : (n : Int) ≤ Number.Range.int64.hi
    · simp [fits]
    · have later : unix ≤ (n : Int) := Int.le_trans signed (Int.le_of_lt (Int.not_le.mp fits))
      simp [fits, later]

theorem contains_iff (signed : unix ≤ Number.Range.int64.hi) (p : ActivePeriod) :
    TimeRange.contains ⟨signedBound p.start, signedBound p.stop⟩ unix = true ↔
      p.Holds unix ∨ p.Misread unix := by
  unfold TimeRange.contains
  rw [Bool.and_eq_true, started_iff, unended_iff signed, or_and_right]
  rfl

/-- An alert is active when it is published to be, and when a period is misread. -/
theorem isActiveAt_iff (signed : unix ≤ Number.Range.int64.hi) :
    (ofMessage a).isActiveAt unix = true ↔
      a.Active unix ∨ ∃ p ∈ a.activePeriods, p.Misread unix := by
  have period : (ofMessage a).activePeriod =
      a.activePeriods.map fun p => ⟨signedBound p.start, signedBound p.stop⟩ := rfl
  unfold isActiveAt AlertMessage.Active
  rw [Bool.or_eq_true, period, List.isEmpty_map, List.isEmpty_iff, List.any_map, List.any_eq_true,
    or_assoc]
  apply or_congr_right
  constructor
  · rintro ⟨p, member, holds⟩
    rcases (contains_iff signed p).mp holds with within | misread
    · exact .inl ⟨p, member, within⟩
    · exact .inr ⟨p, member, misread⟩
  · rintro (⟨p, member, within⟩ | ⟨p, member, misread⟩)
    · exact ⟨p, member, (contains_iff signed p).mpr (.inl within)⟩
    · exact ⟨p, member, (contains_iff signed p).mpr (.inr misread)⟩

theorem faithful_iff (signed : unix ≤ Number.Range.int64.hi) :
    a.Faithful unix ↔ ((ofMessage a).isActiveAt unix = true → a.Active unix) := by
  rw [isActiveAt_iff signed]
  constructor
  · rintro faithful (active | misread)
    · exact active
    · exact faithful misread
  · intro sound misread
    exact sound (.inr misread)

theorem isActiveAt_of_active (signed : unix ≤ Number.Range.int64.hi) (active : a.Active unix) :
    (ofMessage a).isActiveAt unix = true :=
  (isActiveAt_iff signed).mpr (.inl active)

/-- The picked alerts that are published to be active at a moment. -/
def inForce (unix : Int) (picks : AlertMessage → Bool) (alerts : List AlertMessage) :
    List AlertMessage :=
  (alerts.filter picks).filter fun a => a.Active unix

theorem select_active (limit : Nat) (now : Instant) (picks : AlertMessage → Bool)
    (alerts : List AlertMessage) :
    select ⟨limit, true, now⟩ picks alerts =
      (((alerts.filter picks).filter fun a => (ofMessage a).isActiveAt now.seconds).map
        ofMessage).take limit := by
  unfold select
  rw [List.filter_map]
  rfl

/-- A wider property keeps as many elements of a list as a narrower one exactly if it keeps no
others. -/
theorem length_filter_eq_iff {α : Type} {p q : α → Bool} (wider : ∀ x, q x = true → p x = true)
    (xs : List α) :
    (xs.filter p).length = (xs.filter q).length ↔ ∀ x ∈ xs, p x = true → q x = true := by
  have narrowed : (xs.filter p).filter q = xs.filter q := by
    rw [List.filter_filter]
    refine List.filter_congr fun x _ => ?_
    cases known : q x with
    | false => rfl
    | true => rw [wider x known]; rfl
  rw [← narrowed, eq_comm, List.length_filter_eq_length_iff]
  simp only [List.mem_filter, and_imp]

/-- At a moment of the signed range an alert is active exactly when it is published to be, if and only
if no misread period makes it seem so. A selection of active alerts consists, up to any limit, of
exactly the picked ones that are published to be active, if and only if this holds for every alert
that is picked. -/
theorem active_as_published_iff (now : Instant)
    (signed : Number.Range.int64.holds now.seconds = true) :
    (∀ a : AlertMessage,
      ((ofMessage a).isActiveAt now.seconds = true ↔ a.Active now.seconds) ↔
        a.Faithful now.seconds) ∧
    ∀ (picks : AlertMessage → Bool) (alerts : List AlertMessage),
      (∀ limit, select ⟨limit, true, now⟩ picks alerts =
        ((inForce now.seconds picks alerts).map ofMessage).take limit) ↔
        ∀ a ∈ alerts, picks a = true → a.Faithful now.seconds := by
  obtain ⟨_, bound⟩ := Number.Range.holds_iff.mp signed
  constructor
  · intro a
    rw [faithful_iff bound]
    exact ⟨Iff.mp, fun sound => ⟨sound, isActiveAt_of_active bound⟩⟩
  · intro picks alerts
    constructor
    · intro agree a listed picked
      have bounded (q : AlertMessage → Bool) :
          ((alerts.filter picks).filter q).length ≤ alerts.length :=
        Nat.le_trans (List.length_filter_le ..) (List.length_filter_le ..)
      have lengths := congrArg List.length (agree alerts.length)
      rw [select_active, inForce, List.length_take, List.length_map, List.length_take,
        List.length_map, Nat.min_eq_right (bounded _), Nat.min_eq_right (bounded _)] at lengths
      have wider (a : AlertMessage) (active : decide (a.Active now.seconds) = true) :=
        isActiveAt_of_active bound (of_decide_eq_true active)
      have sound := (length_filter_eq_iff wider _).mp lengths
      rw [faithful_iff bound]
      exact fun active => of_decide_eq_true (sound a (List.mem_filter.mpr ⟨listed, picked⟩) active)
    · intro faithful limit
      rw [select_active, inForce]
      congr 2
      refine List.filter_congr fun a member => ?_
      obtain ⟨listed, picked⟩ := List.mem_filter.mp member
      rw [Bool.eq_iff_iff, decide_eq_true_eq]
      exact ⟨(faithful_iff bound).mp (faithful a listed picked), isActiveAt_of_active bound⟩

/-- An alert from noon on 30 May 2018, with an end beyond the signed range. -/
def openEnded : AlertMessage :=
  { activePeriods := [{ start := some 1527681600, stop := some 18446744073709551615 }] }

theorem active_as_published_iff_of_noon :
    let now : Instant := ⟨1527681600, 0⟩
    Number.Range.int64.holds now.seconds = true ∧ openEnded.Faithful now.seconds ∧
      (ofMessage openEnded).isActiveAt now.seconds = true ∧
      ∀ limit, select ⟨limit, true, now⟩ (fun _ => true) [openEnded] =
        [ofMessage openEnded].take limit := by
  intro now
  have active : openEnded.Active now.seconds := by decide
  obtain ⟨agree, selected⟩ := active_as_published_iff now (by decide)
  have faithful : openEnded.Faithful now.seconds := fun _ => active
  refine ⟨by decide, faithful, ((agree openEnded).mpr faithful).mpr active, ?_⟩
  refine (selected (fun _ => true) [openEnded]).mpr fun a member _ => ?_
  rw [List.mem_singleton.mp member]
  exact faithful

/-- An alert that begins at two to the 63rd has yet to begin, and is active and selected all the same. -/
theorem far_future_active :
    let a : AlertMessage := { activePeriods := [{ start := some 9223372036854775808 }] }
    ¬ a.Active 0 ∧ (ofMessage a).isActiveAt 0 = true ∧
      inForce 0 (fun _ => true) [a] = [] ∧
      select ⟨1, true, ⟨0, 0⟩⟩ (fun _ => true) [a] = [ofMessage a] := by
  decide

end Alert

end Transit
