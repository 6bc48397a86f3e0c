import Sip.Foundation.JsonText

/-!
# UTC instants and their ISO 8601 text

An instant is a natural number: the microseconds since the start of year 1 of the
proleptic Gregorian calendar, so instants are ordered as aware UTC datetimes are. `isoformat` goes
through the standard library's own calendar algorithm and omits a zero fraction;
it is injective.
-/

namespace Sip

set_option autoImplicit false

/-- `timedelta(seconds=n)` for a nonnegative `n`. -/
def seconds (n : Nat) : Nat := n * 1000000

namespace Civil

def monthStarts : List Nat := [0, 0, 31, 59, 90, 120, 151, 181, 212, 243, 273, 304, 334]

def daysBeforeMonth (month : Nat) (leap : Bool) : Nat :=
  monthStarts.getD month 0 + if 2 < month ∧ leap = true then 1 else 0

/-- Month and day of the day numbered `n` in its year. -/
def monthDay (n : Nat) (leap : Bool) : Nat × Nat :=
  let month := (n + 50) >>> 5
  if n < daysBeforeMonth month leap then (month - 1, n - daysBeforeMonth (month - 1) leap + 1)
  else (month, n - daysBeforeMonth month leap + 1)

structure Date where
  year : Nat
  month : Nat
  day : Nat

/-- The date of a day number: 400-, 100-, 4- and 1-year cycles in turn. -/
def ofDays (n : Nat) : Date :=
  let n400 := n / 146097
  let n100 := n % 146097 / 36524
  let n4 := n % 146097 % 36524 / 1461
  let n1 := n % 146097 % 36524 % 1461 / 365
  let rest := n % 146097 % 36524 % 1461 % 365
  let year := n400 * 400 + n100 * 100 + n4 * 4 + n1 + 1
  if n1 = 4 ∨ n100 = 4 then ⟨year - 1, 12, 31⟩
  else
    let md := monthDay rest (decide (n1 = 3 ∧ (n4 ≠ 24 ∨ n100 = 3)))
    ⟨year, md.1, md.2⟩

def isLeap (year : Nat) : Bool := decide (year % 4 = 0 ∧ (year % 100 ≠ 0 ∨ year % 400 = 0))

def daysBeforeYear (year : Nat) : Nat :=
  (year - 1) * 365 + (year - 1) / 4 - (year - 1) / 100 + (year - 1) / 400

def toDays (d : Date) : Nat := daysBeforeYear d.year + daysBeforeMonth d.month (isLeap d.year) + d.day - 1

theorem monthDay_spec : ∀ n < 366, ∀ leap, daysBeforeMonth (monthDay n leap).1 leap + (monthDay n leap).2 = n + 1 ∧
    (monthDay n leap).1 < 100 ∧ (monthDay n leap).2 < 100 := by decide +kernel

theorem ofDays_bounds (n : Nat) : (ofDays n).month < 100 ∧ (ofDays n).day < 100 := by
  unfold ofDays
  dsimp only
  split
  · exact ⟨Nat.lt_of_sub_eq_succ rfl, Nat.lt_of_sub_eq_succ rfl⟩
  · exact (monthDay_spec _ (by omega) _).2

theorem daysBeforeYear_cycles {a b c d : Nat} (hb : b ≤ 3) (hc : c ≤ 24) (hd : d ≤ 3) :
    daysBeforeYear (a * 400 + b * 100 + c * 4 + d + 1) = a * 146097 + b * 36524 + c * 1461 + d * 365 := by
  have h4 : (a * 400 + b * 100 + c * 4 + d) / 4 = a * 100 + b * 25 + c := by omega
  have h100 : (a * 400 + b * 100 + c * 4 + d) / 100 = a * 4 + b := by omega
  have h400 : (a * 400 + b * 100 + c * 4 + d) / 400 = a := by omega
  simp only [daysBeforeYear, Nat.add_sub_cancel, h4, h100, h400]
  omega

/-- The calendar algorithm loses nothing: the day number can be computed back. -/
theorem toDays_ofDays (n : Nat) : toDays (ofDays n) = n := by
  obtain ⟨a, ha⟩ : ∃ a, a = n / 146097 := ⟨_, rfl⟩
  obtain ⟨b, hb⟩ : ∃ b, b = n % 146097 / 36524 := ⟨_, rfl⟩
  obtain ⟨c, hc⟩ : ∃ c, c = n % 146097 % 36524 / 1461 := ⟨_, rfl⟩
  obtain ⟨d, hd⟩ : ∃ d, d = n % 146097 % 36524 % 1461 / 365 := ⟨_, rfl⟩
  obtain ⟨r, hr⟩ : ∃ r, r = n % 146097 % 36524 % 1461 % 365 := ⟨_, rfl⟩
  have hn : n = a * 146097 + b * 36524 + c * 1461 + d * 365 + r := by omega
  have hb4 : b ≤ 4 := by omega
  have hc24 : c ≤ 24 := by omega
  have hd4 : d ≤ 4 := by omega
  have hr364 : r ≤ 364 := by omega
  unfold ofDays
  dsimp only
  rw [← ha, ← hb, ← hc, ← hd, ← hr]
  split
  · rename_i hlast
    have hleap : isLeap (a * 400 + b * 100 + c * 4 + d + 1 - 1) = true := by
      unfold isLeap
      rw [decide_eq_true_iff]
      omega
    have hdec : daysBeforeMonth 12 true = 335 := by decide
    simp only [toDays, hleap, hdec]
    rcases hlast with rfl | rfl
    · have hyear := daysBeforeYear_cycles (a := a) (by omega : b ≤ 3) hc24 (le_refl 3)
      rw [show a * 400 + b * 100 + c * 4 + 4 + 1 - 1 = a * 400 + b * 100 + c * 4 + 3 + 1 by omega, hyear]
      omega
    · have hyear := daysBeforeYear_cycles (a := a) (le_refl 3) (le_refl 24) (le_refl 3)
      rw [show a * 400 + 4 * 100 + c * 4 + d + 1 - 1 = a * 400 + 3 * 100 + 24 * 4 + 3 + 1 by omega, hyear]
      omega
  · rename_i hlast
    have hleap : isLeap (a * 400 + b * 100 + c * 4 + d + 1) = decide (d = 3 ∧ (c ≠ 24 ∨ b = 3)) := by
      unfold isLeap
      rw [decide_eq_decide]
      omega
    have hmd := (monthDay_spec r (by omega) (decide (d = 3 ∧ (c ≠ 24 ∨ b = 3)))).1
    have hyear := daysBeforeYear_cycles (a := a) (by omega : b ≤ 3) hc24 (by omega : d ≤ 3)
    simp only [toDays, hleap, hyear]
    omega

end Civil

section Text

/-- `%0wd`: decimal digits, zero-filled to width `w`. -/
def padded (w n : Nat) : List Char :=
  List.replicate (w - (Nat.toDigits 10 n).length) '0' ++ Nat.toDigits 10 n

theorem ofDigitChars_padded (w n : Nat) : Nat.ofDigitChars 10 (padded w n) 0 = n := by
  unfold padded
  induction w - (Nat.toDigits 10 n).length with
  | zero => exact Nat.ofDigitChars_ten_toDigits
  | succ k ih => simpa [List.replicate_succ, Nat.ofDigitChars_cons] using ih

theorem padded_injective {w m n : Nat} (h : padded w m = padded w n) : m = n := by
  rw [← ofDigitChars_padded w m, h, ofDigitChars_padded]

theorem padded_digits {w n : Nat} : ∀ c ∈ padded w n, c.isDigit = true := by
  intro c hc
  rcases List.mem_append.mp hc with hc | hc
  · rw [(List.mem_replicate.mp hc).2]
    decide
  · exact isDigit_of_mem_toDigits hc

theorem length_padded {w n : Nat} (hw : 0 < w) (hn : n < 10 ^ w) : (padded w n).length = w := by
  have := (Nat.length_toDigits_le_iff (b := 10) (n := n) (k := w) (by decide) hw).mpr hn
  simp only [padded, List.length_append, List.length_replicate]
  omega

theorem padded_append_inj {w m n : Nat} {r u : List Char} (hw : 0 < w) (hm : m < 10 ^ w) (hn : n < 10 ^ w)
    (h : padded w m ++ r = padded w n ++ u) : m = n ∧ r = u := by
  obtain ⟨hp, hru⟩ := List.append_inj h (by rw [length_padded hw hm, length_padded hw hn])
  exact ⟨padded_injective hp, hru⟩

def fractionText (micro : Nat) : List Char := if micro = 0 then [] else '.' :: padded 6 micro

/-- `aware.astimezone(UTC).isoformat()`. -/
def isoText (t : Nat) : List Char :=
  let date := Civil.ofDays (t / 1000000 / 86400)
  let clock := t / 1000000 % 86400
  padded 4 date.year ++ '-' :: padded 2 date.month ++ '-' :: padded 2 date.day ++
    'T' :: padded 2 (clock / 3600) ++ ':' :: padded 2 (clock / 60 % 60) ++
    ':' :: padded 2 (clock % 60) ++ fractionText (t % 1000000) ++ ['+', '0', '0', ':', '0', '0']

def isoformat (t : Nat) : String := String.ofList (isoText t)

theorem fractionText_append_inj {m n : Nat} (hm : m < 1000000) (hn : n < 1000000) {c : Char}
    (hc : c ≠ '.') {r u : List Char} (h : fractionText m ++ c :: r = fractionText n ++ c :: u) : m = n := by
  unfold fractionText at h
  split at h <;> split at h
  · omega
  · simp [hc] at h
  · simp [Ne.symm hc] at h
  · exact (padded_append_inj (w := 6) (by decide) hm hn (List.cons.inj h).2).1

theorem padded_year_inj {m n : Nat} {r u : List Char}
    (h : padded 4 m ++ '-' :: r = padded 4 n ++ '-' :: u) : m = n ∧ r = u := by
  have hstop (v : List Char) : ∀ c ∈ ('-' :: v).head?, c.isDigit = false := by
    intro c hc
    simp only [List.head?_cons, Option.mem_def, Option.some.injEq] at hc
    subst hc
    decide
  have hm := takeWhile_append_stop (padded_digits (w := 4) (n := m)) (hstop r)
  have hn := takeWhile_append_stop (padded_digits (w := 4) (n := n)) (hstop u)
  have hp : padded 4 m = padded 4 n := by rw [← hm, h, hn]
  rw [hp] at h
  exact ⟨padded_injective hp, (List.cons.inj (List.append_cancel_left h)).2⟩

theorem clock_eq_of_fields {x y : Nat} (hh : x / 3600 = y / 3600) (hm : x / 60 % 60 = y / 60 % 60)
    (hs : x % 60 = y % 60) : x = y := by
  have hx : x / 60 / 60 = x / 3600 := Nat.div_div_eq_div_mul x 60 60
  have hy : y / 60 / 60 = y / 3600 := Nat.div_div_eq_div_mul y 60 60
  omega

theorem isoText_injective {s t : Nat} (h : isoText s = isoText t) : s = t := by
  have hs := Civil.ofDays_bounds (s / 1000000 / 86400)
  have ht := Civil.ofDays_bounds (t / 1000000 / 86400)
  simp only [isoText, List.append_assoc, List.cons_append] at h
  obtain ⟨hyear, h⟩ := padded_year_inj h
  obtain ⟨hmonth, h⟩ := padded_append_inj (by decide) hs.1 ht.1 h
  obtain ⟨hday, h⟩ := padded_append_inj (by decide) hs.2 ht.2 (List.cons.inj h).2
  obtain ⟨hhour, h⟩ := padded_append_inj (by decide) (by omega) (by omega) (List.cons.inj h).2
  obtain ⟨hminute, h⟩ := padded_append_inj (by decide) (by omega) (by omega) (List.cons.inj h).2
  obtain ⟨hsecond, h⟩ := padded_append_inj (by decide) (by omega) (by omega) (List.cons.inj h).2
  have hmicro := fractionText_append_inj (by omega) (by omega) (by decide) h
  have hdays : s / 1000000 / 86400 = t / 1000000 / 86400 := by
    rw [← Civil.toDays_ofDays (s / 1000000 / 86400), ← Civil.toDays_ofDays (t / 1000000 / 86400)]
    simp only [Civil.toDays, hyear, hmonth, hday]
  have hclock := clock_eq_of_fields hhour hminute hsecond
  omega

theorem isoformat_injective {s t : Nat} (h : isoformat s = isoformat t) : s = t :=
  isoText_injective (String.ofList_injective h)

end Text

example : isoformat 63839664000000001 = "2024-01-01T00:00:00.000001+00:00" := by decide +kernel

end Sip
