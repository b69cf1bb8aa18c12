import Stagehand.Proofs.Log.Record
import Stagehand.Proofs.Time.Moment

/-!
# The time of a record
A record says when it was made, and its context has no part in that. Whoever reads the time back by
the rules of the calendar finds the moment of the record.
-/

namespace Stagehand.Record

variable {severity : Severity} {message time : String} {context : LogContext}

theorem get?_timestamp (severity : Severity) (message : String) (context : LogContext)
    (time : String) :
    (stamped severity message context time).get? "timestamp" = some (.string time) :=
  ((ordered_core severity message time).get?_extend "timestamp" _).trans rfl

/-- The time of a record is a text whatever the moment is. Where the local day is in a year of four
digits and the offset is of whole minutes within a day, the text shows the moment in RFC 3339;
elsewhere it is the display text. -/
theorem ofMoment_timestamp (severity : Severity) (message : String) (context : LogContext)
    (time : Moment) :
    ∃ (text : String) (date : Date),
      (ofMoment severity message context time).get? "timestamp" = some (.string text) ∧
      time.FallsOn date ∧
      (time.Expressible date → time.InCommonWay text.toList) ∧
      (¬ time.Expressible date →
        text = String.ofList time.longText ∧ time.InLongWay text.toList) := by
  refine ⟨time.text, time.date, get?_timestamp _ _ _ _, Moment.fallsOn_iff.mpr rfl,
    Moment.inCommonWay_text, fun h => ⟨?_, Moment.inLongWay_text h⟩⟩
  rw [← Moment.text_of_not_expressible h, String.ofList_toList]

/-- A nanosecond before 1970, shown where it is an hour earlier; and the start of 1970, shown where
the clock is a second ahead, which RFC 3339 cannot express. -/
theorem ofMoment_timestamp_early :
    let early : Moment := ⟨-1, -3600⟩
    let ahead : Moment := ⟨0, 1⟩
    let text := "1969-12-31T22:59:59.999999999-01:00"
    let longText := "1970-01-01 0:00:01.0 +00:00:01"
    ((ofMoment .info "m" [] early).get? "timestamp" = some (.string text) ∧
      early.FallsOn ⟨1969, 12, 31⟩ ∧ early.Expressible ⟨1969, 12, 31⟩ ∧
      ∃ s, Stamp.Common text.toList s ∧ s.Denotes early) ∧
    (ofMoment .info "m" [] ahead).get? "timestamp" = some (.string longText) ∧
      ahead.FallsOn ⟨1970, 1, 1⟩ ∧ ¬ ahead.Expressible ⟨1970, 1, 1⟩ ∧
      ∃ s, Stamp.Long longText.toList s ∧ s.Denotes ahead := by
  intro early ahead text longText
  have hearly : early.text = text := by decide +kernel
  have hahead : ahead.text = longText := by decide +kernel
  have hexpressible : early.Expressible ⟨1969, 12, 31⟩ := by
    refine ⟨?_, ?_, ?_⟩
    · decide
    · decide
    · decide
  have hnot : ¬ ahead.Expressible ⟨1970, 1, 1⟩ := fun h => by
    have hminutes := h.minutes
    revert hminutes
    decide
  constructor
  · obtain ⟨text', date, htext, hdate, hcommon, -⟩ := ofMoment_timestamp .info "m" [] early
    obtain rfl : text' = text := by
      rw [ofMoment, get?_timestamp, hearly] at htext
      injection htext with h
      injection h with h
      exact h.symm
    have hday : early.date = ⟨1969, 12, 31⟩ := by decide +kernel
    obtain rfl : date = ⟨1969, 12, 31⟩ := by rw [← Moment.fallsOn_iff.mp hdate, hday]
    have hway := hcommon hexpressible
    obtain ⟨s, hs⟩ := hway.spelled
    exact ⟨htext, hdate, hexpressible, s, hs, (hway.denotes s hs early).mpr rfl⟩
  · obtain ⟨text', date, htext, hdate, -, hlong⟩ := ofMoment_timestamp .info "m" [] ahead
    have hday : ahead.date = ⟨1970, 1, 1⟩ := by decide +kernel
    obtain rfl : date = ⟨1970, 1, 1⟩ := by rw [← Moment.fallsOn_iff.mp hdate, hday]
    obtain ⟨-, hway⟩ := hlong hnot
    obtain rfl : text' = longText := by
      rw [ofMoment, get?_timestamp, hahead] at htext
      injection htext with h
      injection h with h
      exact h.symm
    obtain ⟨s, hs⟩ := hway.spelled
    exact ⟨htext, hdate, hnot, s, hs, (hway.denotes s hs ahead).mpr rfl⟩

end Stagehand.Record
