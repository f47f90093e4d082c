import SheetIntake.Calendar.Site
import SheetIntake.Proofs.Calendar.Ordinal

/-!
# Moments on a local clock

A moment has a place on the clock of universal time and one on the clock of a site, both counted in
microseconds. It is moved to the local clock when date-times stand at both places, and keeps what
its own clock shows when its offset is that of the site.
-/

namespace SheetIntake.Calendar.Moment

/-- The place of a moment on the clock of universal time, in microseconds. A moment without an
offset is taken as it is. -/
def universalMicros (moment : Moment) : Int :=
  moment.clock.micros - (moment.offset.elim 0 Offset.minutes) * 60000000

/-- How many seconds the clock of a site is ahead of universal time at a moment. -/
def aheadAt (moment : Moment) (site : Site) : Int :=
  site.ahead ((moment.universalMicros - epochMicros).fdiv 1000000)

/-- The place of a moment on the clock of a site, in microseconds. A moment without an offset is
taken as it is. -/
def localMicros (moment : Moment) (site : Site) : Int :=
  match moment.offset with
  | none => moment.clock.micros
  | some _ => moment.universalMicros + moment.aheadAt site * 1000000

/-- Whether a moment has no offset, or the one that the clock of a site has then. -/
def IsLocal (moment : Moment) (site : Site) : Prop :=
  ∀ offset, moment.offset = some offset → offset.minutes * 60 = moment.aheadAt site

/-- Whether no date-time stands where a moment is on the clock of universal time, or none where it
is on the clock of a site. -/
def LeavesCalendar (moment : Moment) (site : Site) : Prop :=
  (∀ clock : DateTime, clock.micros ≠ moment.universalMicros) ∨
    ∀ clock : DateTime, clock.micros ≠ moment.localMicros site

variable {moment : Moment} {site : Site} {clock : DateTime}

/-- A moment without an offset is local everywhere. -/
theorem isLocal_of_naive (naive : moment.offset = none) : moment.IsLocal site := by
  intro offset given
  rw [naive] at given
  cases given

/-- The local clock shows the date-time at the local place of a moment, if one stands at its place
on the clock of universal time too. -/
theorem toLocal?_eq_some_iff :
    moment.toLocal? site = some clock ↔
      (∃ universal : DateTime, universal.micros = moment.universalMicros) ∧
        clock.micros = moment.localMicros site := by
  unfold toLocal? localMicros aheadAt universalMicros
  cases moment.offset with
  | none =>
    dsimp only
    rw [Option.elim_none, Int.zero_mul, Int.sub_zero, Option.some.injEq, DateTime.micros_inj,
      and_iff_right ⟨moment.clock, rfl⟩, eq_comm]
  | some offset =>
    dsimp only
    rw [Option.bind_eq_bind, Option.bind_eq_some_iff, Option.elim_some, Int.sub_eq_add_neg]
    simp only [DateTime.addMicros?, DateTime.ofMicros?_eq_some_iff, DateTime.unixSecond]
    constructor
    · rintro ⟨universal, place, shown⟩
      exact ⟨⟨universal, place⟩, place ▸ shown⟩
    · rintro ⟨⟨universal, place⟩, shown⟩
      exact ⟨universal, place, place ▸ shown⟩

theorem toLocal?_eq_none_iff : moment.toLocal? site = none ↔ moment.LeavesCalendar site := by
  rw [Option.eq_none_iff_forall_ne_some]
  simp only [Ne, toLocal?_eq_some_iff, LeavesCalendar, ← not_exists]
  constructor
  · intro notShown
    by_contra both
    obtain ⟨onUniversal, onLocal⟩ := not_or.mp both
    obtain ⟨clock, place⟩ := not_not.mp onLocal
    exact notShown ⟨clock, not_not.mp onUniversal, place⟩
  · rintro (offUniversal | offLocal) ⟨clock, onUniversal, place⟩
    · exact offUniversal onUniversal
    · exact offLocal ⟨clock, place⟩

/-- The local clock shows what the clock of a moment shows exactly when the moment is local. -/
theorem clock_eq_iff (shown : moment.toLocal? site = some clock) :
    moment.clock = clock ↔ moment.IsLocal site := by
  obtain ⟨_, place⟩ := toLocal?_eq_some_iff.mp shown
  rw [← DateTime.micros_inj, place]
  unfold localMicros IsLocal universalMicros
  cases moment.offset with
  | none => simp
  | some offset =>
    simp only [Option.elim_some, Option.some.injEq, forall_eq']
    omega

end SheetIntake.Calendar.Moment
