import QuarccEngine.Utils.OrderIds
import Mathlib.Algebra.Ring.Int.Defs

/-!
# The journal

The events of `i_journal.h`, the calls made on a journal, and the text form of a time stamp.

A time point of `std::chrono::system_clock` counts nanoseconds in a signed 64-bit integer.  The
calendar of `gmtime_r` is the proleptic Gregorian calendar in UTC, computed from the day number by
the usual division into eras of 400 years that start in March.
-/

namespace Quarcc

/-- `Event` of `i_journal.h`. -/
inductive Event where
  | orderCreated
  | orderValidated
  | orderRejected
  | orderSubmitted
  | orderAccepted
  | orderCancelled
  | orderReplaced
  | orderExpired
  | killSwitchActivated
  | systemStarted
  | systemStopped
  | gatewayConnected
  | gatewayDisconnected
  | errorOccurred
  | signalReceived
  | signalProcessed
  | signalIgnored
  | orderFilled
  | orderPartiallyFilled
  deriving DecidableEq, Repr

/-- A call `IJournal::log(event, data, correlation_id)`. -/
structure LogCall where
  event : Event
  data : String
  correlationId : String := ""
  deriving DecidableEq, Repr

/-! ## Time stamps -/

/-- A time point of the system clock: nanoseconds since 1970 in 64 bits. -/
structure Timestamp where
  ns : ℤ
  ns_ge : -2 ^ 63 ≤ ns
  ns_lt : ns < 2 ^ 63

/-- The broken-down time of `gmtime_r`, with the month counted from 1. -/
structure Tm where
  year : ℤ
  mon : ℤ
  mday : ℤ
  hour : ℤ
  min : ℤ
  sec : ℤ
  deriving DecidableEq, Repr

/-- The year, month and day of the day with the given number, day 0 being 1970-01-01. -/
def civilFromDays (days : ℤ) : ℤ × ℤ × ℤ :=
  let z := days + 719468
  let era := z / 146097
  let doe := z % 146097
  let yoe := (doe - doe / 1460 + doe / 36524 - doe / 146096) / 365
  let doy := doe - (365 * yoe + yoe / 4 - yoe / 100)
  let mp := (5 * doy + 2) / 153
  let day := doy - (153 * mp + 2) / 5 + 1
  let month := if mp < 10 then mp + 3 else mp - 9
  let year := yoe + era * 400 + if month ≤ 2 then 1 else 0
  (year, month, day)

/-- `gmtime_r`: fails when the year does not fit the `int` field `tm_year`. -/
def gmtimeR (timeT : ℤ) : Option Tm :=
  let date := civilFromDays (timeT / 86400)
  let secs := timeT % 86400
  if -2 ^ 31 ≤ date.1 - 1900 ∧ date.1 - 1900 < 2 ^ 31 then
    some
      { year := date.1, mon := date.2.1, mday := date.2.2
        hour := secs / 3600, min := secs % 3600 / 60, sec := secs % 60 }
  else none

/-- An integer in decimal, padded with zeros on the left to the given width, the sign included. -/
def zeroPadInt (width : ℕ) (n : ℤ) : String :=
  if n < 0 then "-" ++ zeroPad (width - 1) n.natAbs else zeroPad width n.natAbs

/-- `strftime` with the format `%Y-%m-%d %H:%M:%S`. -/
def Tm.strftime (tm : Tm) : String :=
  zeroPadInt 4 tm.year ++ "-" ++ zeroPadInt 2 tm.mon ++ "-" ++ zeroPadInt 2 tm.mday ++ " " ++
    zeroPadInt 2 tm.hour ++ ":" ++ zeroPadInt 2 tm.min ++ ":" ++ zeroPadInt 2 tm.sec

/-- `LogEntry::timestamp_to_string`; the error is the text of the exception.  The conversions to
seconds and to milliseconds truncate towards zero, as `duration_cast` does. -/
def timestampToString (ts : Timestamp) : Except String String :=
  match gmtimeR (ts.ns.tdiv 1000000000) with
  | none => .error "gmtime_r error"
  | some tm => .ok (tm.strftime ++ "." ++ zeroPadInt 3 ((ts.ns.tdiv 1000000).tmod 1000))

example : timestampToString ⟨1709210096789000000, by decide, by decide⟩ =
    .ok "2024-02-29 12:34:56.789" := by
  decide +kernel

/-- The year of the era that a day lies in is between 0 and 400. -/
lemma yearOfEra_bounds {doe : ℤ} (h0 : 0 ≤ doe) (h1 : doe < 146097) :
    0 ≤ (doe - doe / 1460 + doe / 36524 - doe / 146096) / 365 ∧
      (doe - doe / 1460 + doe / 36524 - doe / 146096) / 365 ≤ 400 := by
  constructor <;> omega

/-- The year of a day lies in the 401 years from the start of its era. -/
lemma civilFromDays_year_bounds (days : ℤ) :
    (days + 719468) / 146097 * 400 ≤ (civilFromDays days).1 ∧
      (civilFromDays days).1 ≤ (days + 719468) / 146097 * 400 + 401 := by
  have hdoe : 0 ≤ (days + 719468) % 146097 := by omega
  have hdoe' : (days + 719468) % 146097 < 146097 := by omega
  obtain ⟨hlo, hhi⟩ := yearOfEra_bounds hdoe hdoe'
  unfold civilFromDays
  dsimp only
  split_ifs <;> constructor <;> omega

/-- The clock of the engine never leaves the range of `gmtime_r`, so that the conversion of a time
stamp cannot throw. -/
theorem timestampToString_ok (ts : Timestamp) : ∃ text, timestampToString ts = .ok text := by
  have hsec : -9223372037 ≤ ts.ns.tdiv 1000000000 ∧ ts.ns.tdiv 1000000000 ≤ 9223372037 := by
    have hge := ts.ns_ge
    have hlt := ts.ns_lt
    have hsign : Int.sign 1000000000 = 1 := rfl
    rw [Int.tdiv_eq_ediv, hsign]
    split_ifs <;> constructor <;> omega
  have hyear := civilFromDays_year_bounds (ts.ns.tdiv 1000000000 / 86400)
  have hfit : -2 ^ 31 ≤ (civilFromDays (ts.ns.tdiv 1000000000 / 86400)).1 - 1900 ∧
      (civilFromDays (ts.ns.tdiv 1000000000 / 86400)).1 - 1900 < 2 ^ 31 := by
    constructor <;> omega
  unfold timestampToString gmtimeR
  rw [if_pos hfit]
  exact ⟨_, rfl⟩

end Quarcc
