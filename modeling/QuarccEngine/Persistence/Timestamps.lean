import QuarccEngine.Library.Calendar
import QuarccEngine.Library.Decimals
import QuarccEngine.Persistence.SQLiteJournal
import Mathlib.Data.List.TakeWhile
import Mathlib.Data.String.Basic

/-!
# The texts of time stamps

`LogEntry::timestamp_to_string` and `string_to_timestamp` of `i_journal.h`.  The encoder writes the
calendar date, the time of the day and the milliseconds in fields of a fixed width, from the years
on down, so that the texts are in the order of the milliseconds.  The decoder reads the date and the
time of the day, and stops before the milliseconds.

Time points are taken as integers here, whether they fit into 64 bits or not; their texts are those
that the engine makes as long as the year has four digits.
-/

namespace Quarcc

/-! ## The codec -/

/-- `LogEntry::timestamp_to_string` at a number of nanoseconds since 1970. -/
def timePointToString (ns : ℤ) : Except String String :=
  match gmtimeR (ns.tdiv 1000000000) with
  | none => .error "gmtime_r error"
  | some tm => .ok (tm.strftime ++ "." ++ zeroPadInt 3 ((ns.tdiv 1000000).tmod 1000))

/-- A time point of the system clock has the text of its nanoseconds. -/
lemma timestampToString_eq (ts : Timestamp) :
    timestampToString ts = timePointToString ts.ns := by
  unfold timestampToString timePointToString
  cases gmtimeR (ts.ns.tdiv 1000000000) <;> rfl

/-- The number that `std::get_time` reads for a field: at most so many digits as the field has, in
its range. -/
def getNumber (width low high : ℕ) (cs : List Char) : Option (ℕ × List Char) :=
  let digits := (cs.take width).takeWhile Char.isDigit
  let n := digits.foldl (fun n c => 10 * n + (c.toNat - '0'.toNat)) 0
  if digits ≠ [] ∧ low ≤ n ∧ n ≤ high then some (n, cs.drop digits.length) else none

/-- What `std::get_time` has read, and what is left of the text, unless it has failed. -/
abbrev GetTime := Tm × Option (List Char)

namespace GetTime

/-- A field of the format; a failure leaves what was read before. -/
def field (width low high : ℕ) (set : Tm → ℤ → Tm) (state : GetTime) : GetTime :=
  match state.2.bind (getNumber width low high) with
  | some (n, rest) => (set state.1 n, some rest)
  | none => (state.1, none)

/-- A character of the format. -/
def literal (c : Char) (state : GetTime) : GetTime :=
  (state.1, state.2.bind fun cs => if cs.head? = some c then some cs.tail else none)

/-- A blank of the format, which any number of blanks of the text may stand for. -/
def blanks (state : GetTime) : GetTime :=
  (state.1, state.2.map (List.dropWhile Char.isWhitespace))

end GetTime

/-- `ss >> std::get_time(&tm, "%Y-%m-%d %H:%M:%S")`, from a `tm` of zeros. -/
def getTime (cs : List Char) : Tm :=
  let start : GetTime :=
    ({ year := 1900, mon := 1, mday := 0, hour := 0, min := 0, sec := 0 },
      some (cs.dropWhile Char.isWhitespace))
  let date := (((start.field 4 0 9999 fun tm n => { tm with year := n }).literal '-').field 2 1 12
    fun tm n => { tm with mon := n }).literal '-' |>.field 2 1 31 fun tm n => { tm with mday := n }
  let time := ((date.blanks.field 2 0 23 fun tm n => { tm with hour := n }).literal ':').field 2
    0 59 fun tm n => { tm with min := n }
  ((time.literal ':').field 2 0 60 fun tm n => { tm with sec := n }).1

/-- `timegm`. -/
def timegm (tm : Tm) : ℤ :=
  (Calendar.dayOf tm.year tm.mon tm.mday - 719468) * 86400 + tm.hour * 3600 + tm.min * 60 + tm.sec

/-- `LogEntry::string_to_timestamp`, in nanoseconds since 1970. -/
def stringToTimestamp (s : String) : ℤ := timegm (getTime s.toList) * 1000000000

example : stringToTimestamp "2024-02-29 12:34:56.789" = 1709210096000000000 := by decide +kernel

example : stringToTimestamp "UNKNOWN" = -2209075200000000000 := by decide +kernel

/-! ## The calendar -/

/-- The date of a day: its month is the one it lies in. -/
lemma civilFromDays_spec (days : ℤ) :
    let date := civilFromDays days
    1 ≤ date.2.1 ∧ date.2.1 ≤ 12 ∧
      Calendar.InMonth (12 * date.1 + date.2.1 - 3) (days + 719468) ∧
      Calendar.dayOf date.1 date.2.1 date.2.2 = days + 719468 := by
  have h0 : 0 ≤ (days + 719468) % 146097 := by omega
  have h1 : (days + 719468) % 146097 < 146097 := by omega
  obtain ⟨hfirst, hlast, hyoe, hyoe'⟩ := Calendar.year_of_dayOfEra h0 h1
  have hday : days + 719468 =
      (days + 719468) / 146097 * 146097 + (days + 719468) % 146097 := by omega
  unfold civilFromDays
  dsimp only
  unfold Calendar.withoutLeapDays at hfirst hlast hyoe hyoe'
  set era := (days + 719468) / 146097 with hera
  set doe := (days + 719468) % 146097 with hdoe
  set yoe := (doe - doe / 1460 + doe / 36524 - doe / 146096) / 365 with hyear
  have hstart : Calendar.yearStart yoe = 365 * yoe + yoe / 4 - yoe / 100 := by
    unfold Calendar.yearStart
    omega
  have hera_start := Calendar.yearStart_era era yoe
  have hera_next := Calendar.yearStart_era era (yoe + 1)
  have hlength := Calendar.yearStart_succ yoe
  rw [← hstart]
  set doy := doe - Calendar.yearStart yoe with hdoy
  set mp := (5 * doy + 2) / 153 with hmp
  have hin : Calendar.InMonth (12 * (era * 400 + yoe) + mp) (days + 719468) := by
    apply Calendar.inMonth_of_year
    · omega
    · rw [add_assoc, hera_next]
      omega
    · rw [hera_start, hmp]
      congr 3
      omega
  have hstart_month : Calendar.monthStart (12 * (era * 400 + yoe) + mp) =
      era * 146097 + Calendar.yearStart yoe + (153 * mp + 2) / 5 := by
    rw [Calendar.monthStart_eq (by omega) (by omega), hera_start]
  have hmonth : 12 * (yoe + era * 400 + if (if mp < 10 then mp + 3 else mp - 9) ≤ 2 then 1 else 0) +
      (if mp < 10 then mp + 3 else mp - 9) - 3 = 12 * (era * 400 + yoe) + mp := by
    split_ifs <;> omega
  refine ⟨by split_ifs <;> omega, by split_ifs <;> omega, ?_, ?_⟩
  · rw [hmonth]
    exact hin
  · unfold Calendar.dayOf
    rw [hmonth, hstart_month]
    omega

/-- The days of a month are numbered from 1 to at most 31. -/
lemma civilFromDays_mday (days : ℤ) :
    1 ≤ (civilFromDays days).2.2 ∧ (civilFromDays days).2.2 ≤ 31 := by
  obtain ⟨-, -, hin, hday⟩ := civilFromDays_spec days
  have hlength := Calendar.monthStart_succ
    (12 * (civilFromDays days).1 + (civilFromDays days).2.1 - 3)
  have hfirst := hin.1
  have hlast := hin.2
  unfold Calendar.dayOf at hday
  omega

/-- From 1970 to the end of the year 9999, in nanoseconds since 1970. -/
def FourDigitYear (ns : ℤ) : Prop := 0 ≤ ns ∧ ns < 253402300800 * 1000000000

instance (ns : ℤ) : Decidable (FourDigitYear ns) := instDecidableAnd

/-- The years in that range. -/
lemma civilFromDays_year (days : ℤ) (h0 : 0 ≤ days) (h1 : days < 2932897) :
    1970 ≤ (civilFromDays days).1 ∧ (civilFromDays days).1 ≤ 9999 := by
  obtain ⟨hmonth, hmonth', hin, -⟩ := civilFromDays_spec days
  -- the first month of the range is January 1970, and the last one December 9999
  have hfirst : Calendar.InMonth (12 * 1970 + 1 - 3) 719468 := by decide
  have hlast : Calendar.InMonth (12 * 9999 + 12 - 3) 3652364 := by decide
  have hge := hfirst.le hin (by omega)
  have hle := hin.le hlast (by omega)
  omega

/-- The date of a number of milliseconds of the range has a year of four digits. -/
lemma date_bounds {ms : ℤ} (h0 : 0 ≤ ms) (h1 : ms < 253402300800000) :
    let date := civilFromDays (ms / 86400000)
    (1970 ≤ date.1 ∧ date.1 ≤ 9999) ∧ (1 ≤ date.2.1 ∧ date.2.1 ≤ 12) ∧
      1 ≤ date.2.2 ∧ date.2.2 ≤ 31 := by
  obtain ⟨hmonth, hmonth', -, -⟩ := civilFromDays_spec (ms / 86400000)
  exact ⟨civilFromDays_year _ (by omega) (by omega), ⟨hmonth, hmonth'⟩, civilFromDays_mday _⟩

/-- The number of a date: its digits without what stands between them. -/
def dateCode (days : ℤ) : ℤ :=
  (civilFromDays days).1 * 10000 + (civilFromDays days).2.1 * 100 + (civilFromDays days).2.2

/-- Later days have larger numbers. -/
lemma strictMono_dateCode : StrictMono dateCode := by
  intro days days' hlt
  obtain ⟨hmonth, hmonth', hin, hday⟩ := civilFromDays_spec days
  obtain ⟨hnext, hnext', hin', hday'⟩ := civilFromDays_spec days'
  obtain ⟨hmday, hmday'⟩ := civilFromDays_mday days
  obtain ⟨hmday₁, hmday₁'⟩ := civilFromDays_mday days'
  have hle := hin.le hin' (by omega)
  unfold dateCode
  unfold Calendar.dayOf at hday hday'
  rcases hle.lt_or_eq with hless | heq
  · omega
  · rw [heq] at hday
    omega

/-! ## The order of the texts -/

/-- The fields of a text, each with what is written after it. -/
def stampLayout : Decimal.Layout :=
  [(4, ['-']), (2, ['-']), (2, [' ']), (2, [':']), (2, [':']), (2, ['.']), (3, [])]

/-- The values of the fields at a number of milliseconds since 1970. -/
def stampFields (ms : ℤ) : List ℕ :=
  let date := civilFromDays (ms / 86400000)
  [date.1, date.2.1, date.2.2, ms / 3600000 % 24, ms / 60000 % 60, ms / 1000 % 60, ms % 1000].map
    Int.toNat

/-- The number that the digits of a text make together. -/
def stampCode (ms : ℤ) : ℤ :=
  (((dateCode (ms / 1000 / 60 / 60 / 24) * 100 + ms / 1000 / 60 / 60 % 24) * 100 +
    ms / 1000 / 60 % 60) * 100 + ms / 1000 % 60) * 1000 + ms % 1000

/-- Later time points have larger numbers: each field but the first has room for its values. -/
lemma strictMono_stampCode : StrictMono stampCode := by
  have hhour := Calendar.strictMono_parts strictMono_dateCode (by norm_num : (0 : ℤ) < 24)
    (by norm_num : (24 : ℤ) ≤ 100)
  have hmin := Calendar.strictMono_parts hhour (by norm_num : (0 : ℤ) < 60)
    (by norm_num : (60 : ℤ) ≤ 100)
  have hsec := Calendar.strictMono_parts hmin (by norm_num : (0 : ℤ) < 60)
    (by norm_num : (60 : ℤ) ≤ 100)
  exact Calendar.strictMono_parts hsec (by norm_num : (0 : ℤ) < 1000) le_rfl

/-- The fields are wide enough. -/
lemma fits_stampFields {ms : ℤ} (h0 : 0 ≤ ms) (h1 : ms < 253402300800000) :
    stampLayout.Fits (stampFields ms) := by
  obtain ⟨⟨hyear, hyear'⟩, ⟨hmonth, hmonth'⟩, hmday, hmday'⟩ := date_bounds h0 h1
  refine .cons ?_ (.cons ?_ (.cons ?_ (.cons ?_ (.cons ?_ (.cons ?_ (.cons ?_ .nil)))))) <;>
    norm_num <;> omega

/-- The number of the fields is the number of the time point. -/
lemma code_stampFields {ms : ℤ} (h0 : 0 ≤ ms) (h1 : ms < 253402300800000) :
    (stampLayout.code (stampFields ms) : ℤ) = stampCode ms := by
  obtain ⟨⟨hyear, hyear'⟩, ⟨hmonth, hmonth'⟩, hmday, hmday'⟩ := date_bounds h0 h1
  have hday : ms / 1000 / 60 / 60 / 24 = ms / 86400000 := by omega
  have hhour : ms / 1000 / 60 / 60 = ms / 3600000 := by omega
  have hmin : ms / 1000 / 60 = ms / 60000 := by omega
  unfold stampCode dateCode
  rw [hday, hhour, hmin]
  simp only [stampLayout, stampFields, List.map_cons, List.map_nil, Decimal.Layout.code,
    Decimal.Layout.width, List.sum_cons, List.sum_nil]
  push_cast
  rw [Int.toNat_of_nonneg (by omega : 0 ≤ (civilFromDays (ms / 86400000)).1),
    Int.toNat_of_nonneg (by omega : 0 ≤ (civilFromDays (ms / 86400000)).2.1),
    Int.toNat_of_nonneg (by omega : 0 ≤ (civilFromDays (ms / 86400000)).2.2),
    Int.toNat_of_nonneg (by omega : 0 ≤ ms / 3600000 % 24),
    Int.toNat_of_nonneg (by omega : 0 ≤ ms / 60000 % 60),
    Int.toNat_of_nonneg (by omega : 0 ≤ ms / 1000 % 60),
    Int.toNat_of_nonneg (by omega : 0 ≤ ms % 1000)]
  ring

/-- The text of a number of milliseconds since 1970. -/
def stampText (ms : ℤ) : String := String.ofList (stampLayout.text (stampFields ms))

/-- **Order.**  The texts are in the order of the milliseconds. -/
lemma stampText_le_iff {ms ms' : ℤ} (h0 : 0 ≤ ms) (h1 : ms < 253402300800000) (h0' : 0 ≤ ms')
    (h1' : ms' < 253402300800000) : stampText ms ≤ stampText ms' ↔ ms ≤ ms' := by
  have hcode := code_stampFields h0 h1
  have hcode' := code_stampFields h0' h1'
  have hlt : stampText ms' < stampText ms ↔ ms' < ms := by
    rw [String.lt_iff_toList_lt]
    unfold stampText
    rw [String.toList_ofList, String.toList_ofList,
      Decimal.Layout.text_lt_iff (fits_stampFields h0' h1') (fits_stampFields h0 h1),
      ← Int.ofNat_lt, hcode, hcode', strictMono_stampCode.lt_iff_lt]
  rw [← not_lt, hlt, not_lt]

/-- A number that is not negative, padded to a width that is enough for it. -/
lemma zeroPadInt_eq {width : ℕ} {n : ℤ} (hwidth : 0 < width) (h0 : 0 ≤ n)
    (h1 : n.toNat < 10 ^ width) :
    zeroPadInt width n = String.ofList (Decimal.text (Decimal.fixed width n.toNat)) := by
  have hnat : n.natAbs = n.toNat := by omega
  unfold zeroPadInt zeroPad
  rw [if_neg (by omega), hnat, Decimal.text_fixed hwidth h1]

/-- The encoder makes this text. -/
lemma timePointToString_eq {ns : ℤ} (h : FourDigitYear ns) :
    timePointToString ns = .ok (stampText (ns / 1000000)) := by
  obtain ⟨h0, h1⟩ := h
  have hms0 : 0 ≤ ns / 1000000 := by omega
  have hms1 : ns / 1000000 < 253402300800000 := by omega
  set ms := ns / 1000000 with hms
  have hsec : ns.tdiv 1000000000 = ms / 1000 := by
    rw [Int.tdiv_eq_ediv_of_nonneg h0]
    omega
  have hrest : (ns.tdiv 1000000).tmod 1000 = ms % 1000 := by
    rw [Int.tdiv_eq_ediv_of_nonneg h0, Int.tmod_eq_emod_of_nonneg hms0]
  have hday : ms / 1000 / 86400 = ms / 86400000 := by omega
  have hhour : ms / 1000 % 86400 / 3600 = ms / 3600000 % 24 := by omega
  have hmin : ms / 1000 % 86400 % 3600 / 60 = ms / 60000 % 60 := by omega
  have hsec' : ms / 1000 % 86400 % 60 = ms / 1000 % 60 := by omega
  obtain ⟨⟨hyear, hyear'⟩, ⟨hmonth, hmonth'⟩, hmday, hmday'⟩ := date_bounds hms0 hms1
  unfold timePointToString gmtimeR
  rw [hsec, hrest, hday, if_pos (by omega)]
  dsimp only
  rw [hhour, hmin, hsec']
  unfold Tm.strftime
  dsimp only
  rw [zeroPadInt_eq (by norm_num) (by omega) (by norm_num; omega),
    zeroPadInt_eq (by norm_num) (by omega) (by norm_num; omega),
    zeroPadInt_eq (by norm_num) (by omega) (by norm_num; omega),
    zeroPadInt_eq (by norm_num) (by omega) (by norm_num; omega),
    zeroPadInt_eq (by norm_num) (by omega) (by norm_num; omega),
    zeroPadInt_eq (by norm_num) (by omega) (by norm_num; omega),
    zeroPadInt_eq (by norm_num) (by omega) (by norm_num; omega)]
  apply congrArg Except.ok
  apply String.toList_inj.mp
  simp [stampText, stampLayout, stampFields, Decimal.Layout.text]

/-- Such a text comes before the text that stands for a failed conversion. -/
lemma stampText_lt_unknown (ms : ℤ) : stampText ms < "UNKNOWN" := by
  rw [String.lt_iff_toList_lt]
  unfold stampText
  rw [String.toList_ofList]
  refine Decimal.text_append_lt ?_ (fun _ => Decimal.lt_ten_of_mem_fixed) (by decide) _ _
  apply List.ne_nil_of_length_pos
  rw [Decimal.length_fixed]
  norm_num

/-- It has no zero byte, so that it is bound and read as a whole. -/
lemma cStr_stampText (ms : ℤ) : cStr (stampText ms) = stampText ms := by
  have hall : ∀ c ∈ stampLayout.text (stampFields ms), decide (c ≠ Char.ofNat 0) = true := by
    intro c hc
    apply decide_eq_true
    rintro rfl
    rcases Decimal.Layout.mem_text hc with hdigit | hafter
    · exact absurd hdigit (by decide)
    · exact absurd hafter (by decide)
  unfold cStr stampText
  rw [String.toList_ofList, List.takeWhile_eq_self_iff.mpr hall]

/-! ## Reading a text -/

/-- Reading a field that was written in its width. -/
lemma getNumber_fixed {width low high n : ℕ} {rest : List Char} (hwidth : 0 < width)
    (hfit : n < 10 ^ width) (hlow : low ≤ n) (hhigh : n ≤ high) :
    getNumber width low high (Decimal.text (Decimal.fixed width n) ++ rest) = some (n, rest) := by
  have hlength : (Decimal.text (Decimal.fixed width n)).length = width := by
    rw [Decimal.length_text, Decimal.length_fixed]
  have hdigits :
      ((Decimal.text (Decimal.fixed width n) ++ rest).take width).takeWhile Char.isDigit =
      Decimal.text (Decimal.fixed width n) := by
    rw [List.take_left' hlength, List.takeWhile_eq_self_iff.mpr]
    exact List.all_eq_true.mp (Decimal.all_isDigit_text fun _ => Decimal.lt_ten_of_mem_fixed)
  have hne : Decimal.text (Decimal.fixed width n) ≠ [] := by
    apply List.ne_nil_of_length_pos
    rwa [hlength]
  unfold getNumber
  dsimp only
  rw [hdigits, Decimal.foldl_text fun _ => Decimal.lt_ten_of_mem_fixed, Decimal.value_fixed hfit,
    if_pos ⟨hne, hlow, hhigh⟩, List.drop_left]

namespace GetTime

/-- A field of the format reads a field of the text. -/
lemma field_fixed {width low high n : ℕ} {set : Tm → ℤ → Tm} {tm : Tm} {rest : List Char}
    (hwidth : 0 < width) (hfit : n < 10 ^ width) (hlow : low ≤ n) (hhigh : n ≤ high) :
    field width low high set (tm, some (Decimal.text (Decimal.fixed width n) ++ rest)) =
      (set tm n, some rest) := by
  unfold field
  rw [Option.bind_some, getNumber_fixed hwidth hfit hlow hhigh]

/-- A character of the format reads the same character of the text. -/
lemma literal_cons (c : Char) (tm : Tm) (rest : List Char) :
    literal c (tm, some (c :: rest)) = (tm, some rest) := by
  unfold literal
  rw [Option.bind_some, List.head?_cons, if_pos rfl, List.tail_cons]

end GetTime

/-- A digit is not a blank. -/
lemma dropWhile_blank_fixed {width n : ℕ} {rest : List Char} (hwidth : 0 < width) :
    (Decimal.text (Decimal.fixed width n) ++ rest).dropWhile Char.isWhitespace =
      Decimal.text (Decimal.fixed width n) ++ rest := by
  cases hds : Decimal.fixed width n with
  | nil =>
    have hlength := Decimal.length_fixed width n
    rw [hds, List.length_nil] at hlength
    omega
  | cons d ds =>
    have hmem : d ∈ Decimal.fixed width n := by
      rw [hds]
      exact List.mem_cons_self
    have hd : d < 10 := Decimal.lt_ten_of_mem_fixed hmem
    have hdigit : ∀ d < 10, Char.isWhitespace (Nat.digitChar d) = false := by decide
    rw [Decimal.text_cons, List.cons_append, List.dropWhile_cons, hdigit d hd]
    rfl

/-- The decoder reads every field but the milliseconds. -/
lemma getTime_stampText {ms : ℤ} (h0 : 0 ≤ ms) (h1 : ms < 253402300800000) :
    getTime (stampText ms).toList =
      { year := (civilFromDays (ms / 86400000)).1, mon := (civilFromDays (ms / 86400000)).2.1
        mday := (civilFromDays (ms / 86400000)).2.2, hour := ms / 3600000 % 24
        min := ms / 60000 % 60, sec := ms / 1000 % 60 } := by
  obtain ⟨⟨hyear, hyear'⟩, ⟨hmonth, hmonth'⟩, hmday, hmday'⟩ := date_bounds h0 h1
  set date := civilFromDays (ms / 86400000) with hdate
  have htext : (stampText ms).toList =
      Decimal.text (Decimal.fixed 4 date.1.toNat) ++ ('-' ::
        (Decimal.text (Decimal.fixed 2 date.2.1.toNat) ++ ('-' ::
          (Decimal.text (Decimal.fixed 2 date.2.2.toNat) ++ (' ' ::
            (Decimal.text (Decimal.fixed 2 (ms / 3600000 % 24).toNat) ++ (':' ::
              (Decimal.text (Decimal.fixed 2 (ms / 60000 % 60).toNat) ++ (':' ::
                (Decimal.text (Decimal.fixed 2 (ms / 1000 % 60).toNat) ++ ('.' ::
                  (Decimal.text (Decimal.fixed 3 (ms % 1000).toNat) ++ [])))))))))))) := by
    unfold stampText
    rw [String.toList_ofList]
    rfl
  have hblank : ∀ rest, List.dropWhile Char.isWhitespace (' ' :: rest) =
      List.dropWhile Char.isWhitespace rest := fun _ => rfl
  unfold getTime
  dsimp only
  rw [htext, dropWhile_blank_fixed (by norm_num),
    GetTime.field_fixed (by norm_num) (by norm_num; omega) (by omega) (by omega),
    GetTime.literal_cons,
    GetTime.field_fixed (by norm_num) (by norm_num; omega) (by omega) (by omega),
    GetTime.literal_cons,
    GetTime.field_fixed (by norm_num) (by norm_num; omega) (by omega) (by omega)]
  unfold GetTime.blanks
  rw [Option.map_some, hblank, dropWhile_blank_fixed (by norm_num),
    GetTime.field_fixed (by norm_num) (by norm_num; omega) (by omega) (by omega),
    GetTime.literal_cons,
    GetTime.field_fixed (by norm_num) (by norm_num; omega) (by omega) (by omega),
    GetTime.literal_cons,
    GetTime.field_fixed (by norm_num) (by norm_num; omega) (by omega) (by omega)]
  dsimp only
  rw [Int.toNat_of_nonneg (by omega : 0 ≤ date.1), Int.toNat_of_nonneg (by omega : 0 ≤ date.2.1),
    Int.toNat_of_nonneg (by omega : 0 ≤ date.2.2),
    Int.toNat_of_nonneg (by omega : 0 ≤ ms / 3600000 % 24),
    Int.toNat_of_nonneg (by omega : 0 ≤ ms / 60000 % 60),
    Int.toNat_of_nonneg (by omega : 0 ≤ ms / 1000 % 60)]

/-- **What comes back.**  The decoder returns the second that the text lies in. -/
lemma stringToTimestamp_stampText {ms : ℤ} (h0 : 0 ≤ ms) (h1 : ms < 253402300800000) :
    stringToTimestamp (stampText ms) = ms / 1000 * 1000000000 := by
  obtain ⟨-, -, -, hday⟩ := civilFromDays_spec (ms / 86400000)
  unfold stringToTimestamp timegm
  rw [getTime_stampText h0 h1]
  dsimp only
  rw [hday]
  omega

end Quarcc
