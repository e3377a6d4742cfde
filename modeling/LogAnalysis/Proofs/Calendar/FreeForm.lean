import LogAnalysis.Calendar.FreeForm
import LogAnalysis.Proofs.Calendar.Lexemes
import LogAnalysis.Proofs.Decimal.Readers
import LogAnalysis.Proofs.Text.Search

/-!
# Timestamps in free form

A timestamp with a zone is also read in free form, where its lexemes are taken in four steps: the date, the separator, the
time and the zone (`FreeForm.readFrom_time`, `FreeForm.readFrom_zone`). It says what it says in international notation
(`FreeForm.parse?_text`), and zones count in which the minutes are no minutes of an hour.
-/

namespace LogAnalysis.Calendar.FreeForm

open Text
open Numeral (IsNumeral)

/-! ## Numbers -/

section Numbers

variable {width n : Nat} {cs : List Char} {s : String}

theorem natural?_of_isNumeral (numeral : IsNumeral width n cs) (positive : 0 < width) (short : width ≤ Numeral.maxDigits) :
    natural? (String.ofList cs) = some n := by
  rw [natural?, numeral.integer_eq positive short]
  simp

theorem takeDecimal_of_isNumeral (numeral : IsNumeral width n cs) (positive : 0 < width) :
    Numeral.takeDecimal cs = some (⟨n, 0⟩, []) := by
  have taken : Numeral.takeDecimal (cs ++ []) = _ := Numeral.takeDecimal_whole numeral.digits (by simp)
  have nonempty : cs.isEmpty = false := by
    cases cs with
    | nil => exact absurd numeral.length (Nat.ne_of_lt positive)
    | cons c cs => rfl
  rw [List.append_nil, nonempty, numeral.value] at taken
  exact taken

theorem amount?_of_isNumeral (numeral : IsNumeral width n cs) (positive : 0 < width) :
    amount? (String.ofList cs) = some ⟨n, 0⟩ := by
  rw [amount?, String.toList_ofList, Numeral.map_plainDigit fun c member => .inr (numeral.digits c member),
    takeDecimal_of_isNumeral numeral positive]

theorem float?_of_isNumeral (numeral : IsNumeral width n cs) (positive : 0 < width) :
    (Numeral.float? (String.ofList cs)).isSome = true := by
  have nonempty : cs ≠ [] := by
    rintro rfl
    exact absurd numeral.length (Nat.ne_of_lt positive)
  have written : ∀ c ∈ cs, c = '-' ∨ c.isDigit = true := fun c member => .inr (numeral.digits c member)
  have plain : (Numeral.unpadded cs).map Numeral.plainDigit = cs := by
    rw [Numeral.unpadded_of_none fun c member => (Numeral.plain_of_digit (written c member)).1]
    exact Numeral.map_plainDigit written
  have noLowLine : '_' ∉ cs := fun member => absurd (numeral.digits '_' member) (by decide)
  have isDecimal : Numeral.IsDecimal cs := by
    rw [← List.append_nil cs]
    exact .whole numeral.digits nonempty .none
  rw [Numeral.float?, String.toList_ofList, plain, Numeral.dropLowLines_of_none noLowLine]
  simp only [Option.bind_eq_bind, Option.bind_some, Numeral.takeSign_of_digits numeral.digits, isDecimal.word?_eq_none,
    takeDecimal_of_isNumeral numeral positive]
  rfl

theorem seconds?_text (w : Written) : seconds? (String.ofList w.seconds) = some (w.second, w.wall.microsecond) := by
  have isSecond := isNumeral_padded (show 0 < 2 by decide) w.second_lt
  have readSecond := natural?_of_isNumeral isSecond (by decide) (by decide)
  have noPoint : '.' ∉ (padded 2 w.second).toList := fun member => absurd (isSecond.digits '.' member) (by decide)
  rcases w.isFraction with none | ⟨mark, d, ds, some, -, digits⟩
  · have all : pieces '.' (String.ofList w.seconds) = [String.ofList (padded 2 w.second).toList] := by
      rw [pieces, String.toList_ofList, Written.seconds, if_pos none, List.append_nil, splitOn_of_notMem noPoint]
      rfl
    rw [seconds?, all]
    simp only [readSecond, Option.bind_eq_bind, Option.bind_some]
    rw [Written.wall, none]
    rfl
  · have noPoint' : '.' ∉ d :: ds := fun member => absurd (digits '.' member) (by decide)
    have both : pieces '.' (String.ofList w.seconds) =
        [String.ofList (padded 2 w.second).toList, String.ofList (d :: ds)] := by
      rw [pieces, String.toList_ofList, Written.seconds, if_neg (some ▸ List.cons_ne_nil _ _), some, List.drop_one,
        List.tail_cons, splitOn_append noPoint, splitOn_of_notMem noPoint']
      rfl
    have isPlaces : IsNumeral ((d :: ds).take 6).length (Numeral.digitsValue ((d :: ds).take 6)) ((d :: ds).take 6) :=
      ⟨rfl, fun c member => digits c (List.mem_of_mem_take member), rfl⟩
    have short : ((d :: ds).take 6).length ≤ 6 := List.length_take_le 6 _
    have filled := isPlaces.append_zeros (6 - ((d :: ds).take 6).length)
    rw [Nat.add_sub_cancel' short] at filled
    have readPlaces := natural?_of_isNumeral filled (by decide) (by decide)
    rw [seconds?, both]
    simp only [readSecond, String.toList_ofList, readPlaces, Option.bind_eq_bind, Option.bind_some]
    rw [Written.wall, some]
    rfl

theorem allDigits_of_isNumeral (numeral : IsNumeral width n cs) (positive : 0 < width) :
    allDigits (String.ofList cs) = true := by
  have nonempty : String.ofList cs ≠ "" := by
    intro empty
    have nothing := congrArg String.toList empty
    rw [String.toList_ofList] at nothing
    rw [nothing] at numeral
    exact absurd numeral.length (Nat.ne_of_lt positive)
  rw [allDigits, Bool.and_eq_true, bne_iff_ne, String.toList_ofList, List.all_eq_true]
  exact ⟨nonempty, fun c member => (Lexeme.classes_of_digit (numeral.digits c member)).2.1⟩

end Numbers

/-! ## Readings -/

theorem lowered_of_digits {s : String} (digits : ∀ c ∈ s.toList, c.isDigit = true) : lowered s = s := by
  have table : ∀ n < 10, lowerChar (Nat.digitChar n) = [Nat.digitChar n] ∧ Nat.digitChar n ≠ 'Σ' := by decide
  rw [lowered, lower, lowerAfter_eq_self (fun c member => ?_) false, String.ofList_toList]
  obtain ⟨n, small, rfl⟩ := exists_digitChar (digits c member)
  exact table n small

theorem twoDigits {n : Nat} (small : n < 100) : isFiller (padded 2 n) = false ∧ month? (padded 2 n) = none := by
  have numeral : IsNumeral 2 n (padded 2 n).toList := isNumeral_padded (by decide) small
  have names : ∀ name ∈ fillers ++ monthNames.flatten, name.toList.all Char.isDigit = false := by decide
  have other : lowered (padded 2 n) ∉ fillers ++ monthNames.flatten := by
    rw [lowered_of_digits numeral.digits]
    intro member
    have noDigits := names _ member
    rw [List.all_eq_true.mpr numeral.digits] at noDigits
    exact absurd noDigits.symm Bool.false_ne_true
  constructor
  · refine Bool.eq_false_iff.mpr fun filler => other (List.mem_append_left _ ?_)
    rw [isFiller] at filler
    exact List.contains_iff_mem.mp filler
  · rw [month?, placeOf?, Option.map_eq_none_iff, List.findIdx?_eq_none_iff]
    intro group isGroup
    refine Bool.eq_false_iff.mpr fun named => other (List.mem_append_right _ ?_)
    have member : lowered (padded 2 n) ∈ group := List.contains_iff_mem.mp named
    exact List.mem_flatten_of_mem isGroup member

theorem length_padded {width n : Nat} (positive : 0 < width) (small : n < 10 ^ width) : (padded width n).length = width :=
  (isNumeral_padded positive small).length

theorem allDigits_padded {width n : Nat} (positive : 0 < width) (small : n < 10 ^ width) :
    allDigits (padded width n) = true := by
  have all := allDigits_of_isNumeral (isNumeral_padded positive small) positive
  rwa [String.ofList_toList] at all

theorem natural?_padded {width n : Nat} (positive : 0 < width) (short : width ≤ 4300) (small : n < 10 ^ width) :
    natural? (padded width n) = some n := by
  have read := natural?_of_isNumeral (isNumeral_padded positive small) positive short
  rwa [String.ofList_toList] at read

theorem float?_padded {width n : Nat} (positive : 0 < width) (small : n < 10 ^ width) :
    (Numeral.float? (padded width n)).isSome = true := by
  have read := float?_of_isNumeral (isNumeral_padded positive small) positive
  rwa [String.ofList_toList] at read

theorem amount?_padded {width n : Nat} (positive : 0 < width) (small : n < 10 ^ width) :
    amount? (padded width n) = some ⟨n, 0⟩ := by
  have read := amount?_of_isNumeral (isNumeral_padded positive small) positive
  rwa [String.ofList_toList] at read

def lexemesOf (w : Written) (zone : List String) : Array String :=
  ([padded 4 w.date.year, "-", padded 2 w.date.month, "-", padded 2 w.date.day, String.ofList [w.separator],
    padded 2 w.hour, ":", padded 2 w.minute, ":", String.ofList w.seconds] ++ zone).toArray

variable (w : Written) (zone : List String)

theorem number?_year : number? (lexemesOf w zone) {} 0 (padded 4 w.date.year) ⟨w.date.year, 0⟩ =
    some ({ date := ⟨[w.date.year, w.date.month, w.date.day], some 0, none, true⟩ }, 4) := by
  have readYear : natural? (padded 4 w.date.year) = some w.date.year := natural?_padded (by decide) (by decide) w.year_lt
  have readMonth : natural? (padded 2 w.date.month) = some w.date.month := natural?_padded (by decide) (by decide) w.month_lt
  have readDay : natural? (padded 2 w.date.day) = some w.date.day := natural?_padded (by decide) (by decide) w.day_lt
  have four : (padded 4 w.date.year).length = 4 := length_padded (by decide) w.year_lt
  have two : (padded 2 w.date.month).length = 2 := length_padded (by decide) w.month_lt
  have two' : (padded 2 w.date.day).length = 2 := length_padded (by decide) w.day_lt
  have all : allDigits (padded 4 w.date.year) = true := allDigits_padded (by decide) w.year_lt
  have all' : allDigits (padded 2 w.date.month) = true := allDigits_padded (by decide) w.month_lt
  have noUnit : unit? "-" = none := by decide
  simp [number?, unitOf?, joined?, lexemesOf, DateParts.addText?, DateParts.addYear?, four, two, two', all, all', readYear,
    readMonth, readDay, (twoDigits w.month_lt).1, (twoDigits w.day_lt).2, noUnit]

theorem whole_natural (n : Nat) : whole ⟨n, 0⟩ = n := by simp [whole]

def readingOf : Reading :=
  { date := ⟨[w.date.year, w.date.month, w.date.day], some 0, none, true⟩, hour := some w.hour, minute := some w.minute,
    second := some w.second, microsecond := some w.wall.microsecond }

theorem number?_hour : number? (lexemesOf w zone)
    { date := ⟨[w.date.year, w.date.month, w.date.day], some 0, none, true⟩ } 6 (padded 2 w.hour) ⟨w.hour, 0⟩ =
    some (readingOf w, 10) := by
  have two : (padded 2 w.hour).length = 2 := length_padded (by decide) w.hour_lt
  have readMinute : amount? (padded 2 w.minute) = some ⟨w.minute, 0⟩ := amount?_padded (by decide) w.minute_lt
  have noUnit : unit? ":" = none := by decide
  have noUnit' : unit? (String.singleton w.separator) = none := by
    rcases w.separates with blank | letter
    · rw [blank]; decide
    · rw [letter]; decide
  simp [number?, unitOf?, clockTime?, lexemesOf, two, noUnit, noUnit', readMinute, setMinute, setSecond?, seconds?_text,
    whole_natural, readingOf]

theorem readFrom_number {steps year i i' : Nat} {ls : Array String} {r r' : Reading} {s : String} {d : Decimal}
    (here : ls[i]? = some s) (isNumber : (Numeral.float? s).isSome = true) (amount : amount? s = some d)
    (read : number? ls r i s d = some (r', i')) : readFrom (steps + 1) year ls r i = readFrom steps year ls r' (i' + 1) := by
  simp only [readFrom, here, isNumber, if_true, amount, Option.bind_some, read]

def NamesNothing (s : String) : Prop :=
  (Numeral.float? s).isSome = false ∧ weekday? s = none ∧ month? s = none ∧ half? s = none

theorem namesNothing : ∀ s ∈ [" ", "T", "Z", "+", "-"], NamesNothing s := by
  unfold NamesNothing
  decide

theorem readFrom_mark {steps year i : Nat} {ls : Array String} {r : Reading} {s : String} (here : ls[i]? = some s)
    (plain : NamesNothing s) : readFrom (steps + 1) year ls r i =
      if couldBeZone r s && r.zoneSeconds.isNone then
        readFrom steps year (zoneName ls r i s).2 (zoneName ls r i s).1 (i + 1)
      else if r.hour.isSome ∧ (s = "+" ∨ s = "-") then
        (zoneDigits? ls r i (if s = "+" then 1 else -1)).bind fun step => readFrom steps year ls step.1 (step.2 + 1)
      else if isFiller s then readFrom steps year ls r (i + 1)
      else none := by
  obtain ⟨noNumber, noDay, noMonth, noHalf⟩ := plain
  simp only [readFrom, here, noNumber, noDay, noMonth, noHalf, Bool.false_eq_true, if_false]
  rfl

theorem readFrom_separator {steps year i : Nat} {ls : Array String} {r : Reading}
    (here : ls[i]? = some (String.ofList [w.separator])) (noHour : r.hour = none) :
    readFrom (steps + 1) year ls r i = readFrom steps year ls r (i + 1) := by
  have isMark : String.ofList [w.separator] = " " ∨ String.ofList [w.separator] = "T" := by
    rcases w.separates with blank | letter
    · exact .inl (by rw [blank])
    · exact .inr (by rw [letter])
  have noZone (s : String) : couldBeZone r s = false := by rw [couldBeZone, noHour]; rfl
  rcases isMark with same | same
  · rw [readFrom_mark here (same ▸ namesNothing " " (by decide)), same, noZone, noHour]
    rfl
  · rw [readFrom_mark here (same ▸ namesNothing "T" (by decide)), same, noZone, noHour]
    rfl

theorem readFrom_time (steps year : Nat) :
    readFrom (steps + 3) year (lexemesOf w zone) {} 0 = readFrom steps year (lexemesOf w zone) (readingOf w) 11 := by
  have year := float?_padded (show 0 < 4 by decide) w.year_lt
  have hour := float?_padded (show 0 < 2 by decide) w.hour_lt
  have readYear := amount?_padded (show 0 < 4 by decide) w.year_lt
  have readHour := amount?_padded (show 0 < 2 by decide) w.hour_lt
  rw [readFrom_number (by simp [lexemesOf]) year readYear (number?_year w zone),
    readFrom_separator w (by simp [lexemesOf]) rfl,
    readFrom_number (by simp [lexemesOf]) hour readHour (number?_hour w zone)]

theorem readFrom_end {steps year i : Nat} {ls : Array String} {r : Reading} (here : ls[i]? = none) :
    readFrom steps year ls r i = some r := by
  cases steps with
  | zero => rfl
  | succ steps => simp only [readFrom, here]

theorem zoneOf_universal (clock : Clock) : zoneOf clock (some "Z") none = .ahead 0 ∨
    zoneOf clock (some "Z") none = .localZone ∧ clock.aheadSeconds = 0 := by
  have named : zoneOf clock (some "Z") none = if some "UTC" = some clock.zoneName then .localZone else .ahead 0 := rfl
  rw [named]
  split
  · next same =>
      right
      refine ⟨rfl, ?_⟩
      rw [Clock.zoneName] at same
      split at same
      · next zero => rw [Clock.aheadSeconds, zero]; rfl
      · exact absurd same (by decide)
  · exact .inl rfl

theorem zoneOf_seconds (clock : Clock) (seconds : Int) : zoneOf clock none (some seconds) = .ahead seconds ∨
    zoneOf clock none (some seconds) = .localZone ∧ clock.aheadSeconds = seconds := by
  by_cases zero : seconds = 0
  · rw [zero]
    exact zoneOf_universal clock
  · left
    simp [zoneOf, zero]

theorem readFrom_sign {sign : String} (isSign : sign = "+" ∨ sign = "-") (hours minutes : Fin 100) (steps year : Nat) :
    readFrom (steps + 1) year (lexemesOf w [sign, padded 2 hours, ":", padded 2 minutes]) (readingOf w) 11 =
      some { readingOf w with
        zoneSeconds := some ((if sign = "+" then 1 else -1) * (hours * 3600 + minutes * 60 : Nat)) } := by
  have here : (lexemesOf w [sign, padded 2 hours, ":", padded 2 minutes])[11]? = some sign := by simp [lexemesOf]
  have readHours : natural? (padded 2 hours) = some (hours : Nat) := natural?_padded (by decide) (by decide) hours.isLt
  have readMinutes : natural? (padded 2 minutes) = some (minutes : Nat) :=
    natural?_padded (by decide) (by decide) minutes.isLt
  have two : (padded 2 hours).length = 2 := length_padded (by decide) hours.isLt
  have plain : NamesNothing sign := by
    rcases isSign with rfl | rfl
    · exact namesNothing "+" (by decide)
    · exact namesNothing "-" (by decide)
  have noZone : couldBeZone (readingOf w) sign = false := by
    rcases isSign with rfl | rfl <;> rfl
  rw [readFrom_mark here plain, noZone, Bool.false_and, if_neg Bool.false_ne_true, if_pos ⟨rfl, isSign⟩]
  simp [lexemesOf, zoneDigits?, readHours, readMinutes, two, readingOf, readFrom_end]

theorem readFrom_zone (z : WrittenZone) (steps year : Nat) :
    ∃ name seconds, readFrom (steps + 1) year (lexemesOf w (z.lexemes.map String.ofList)) (readingOf w) 11 =
      some { readingOf w with zoneName := name, zoneSeconds := seconds } ∧
      ∀ clock, zoneOf clock name seconds = .ahead z.seconds ∨
        zoneOf clock name seconds = .localZone ∧ clock.aheadSeconds = z.seconds := by
  cases z with
  | universal =>
      refine ⟨some "Z", none, ?_, fun clock => zoneOf_universal clock⟩
      have here : (lexemesOf w ["Z"])[11]? = some "Z" := by simp [lexemesOf]
      have past : (lexemesOf w ["Z"])[12]? = none := by simp [lexemesOf]
      have could : (couldBeZone (readingOf w) "Z" && (readingOf w).zoneSeconds.isNone) = true := rfl
      show readFrom (steps + 1) year (lexemesOf w ["Z"]) (readingOf w) 11 = _
      rw [readFrom_mark here (namesNothing "Z" (by decide)), if_pos could]
      simp [zoneName, past, readFrom_end]
  | offset behind hours minutes =>
      refine ⟨none, some (WrittenZone.offset behind hours minutes).seconds, ?_, fun clock => zoneOf_seconds clock _⟩
      cases behind with
      | true =>
          simp only [WrittenZone.lexemes, List.map_cons, List.map_nil, String.ofList_toList]
          exact readFrom_sign w (.inr rfl) hours minutes steps year
      | false =>
          simp only [WrittenZone.lexemes, List.map_cons, List.map_nil, String.ofList_toList]
          exact readFrom_sign w (.inl rfl) hours minutes steps year

theorem dateOf?_reading (valid : w.date.isValid = true) (clock : Clock) (name : Option String) (seconds : Option Int) :
    dateOf? clock { readingOf w with zoneName := name, zoneSeconds := seconds } = some w.date := by
  simp [dateOf?, readingOf, DateParts.resolve?, DateParts.byCustom, fullYear, valid]

theorem lexemes_text (z : WrittenZone) :
    ((Lexeme.ofText ((w.text ++ z.text).filter (· ≠ '\x00'))).map String.ofList).toArray =
      lexemesOf w (z.lexemes.map String.ofList) := by
  have kept : (w.text ++ z.text).filter (· ≠ '\x00') = w.text ++ z.text := by
    refine List.filter_eq_self.mpr fun c member => ?_
    rw [decide_eq_true_eq]
    rintro rfl
    rcases Iso.mem_text member with digit | mark
    · exact absurd digit (by decide)
    · exact absurd mark (by decide)
  rw [kept, Lexeme.ofText_text, lexemesOf]
  simp

theorem parse?_text (z : WrittenZone) (valid : w.wall.isValid = true) (clock : Clock) :
    ∃ zone, parse? clock (String.ofList (w.text ++ z.text)) = some (w.wall, zone) ∧
      (zone = .ahead z.seconds ∨ zone = .localZone ∧ clock.aheadSeconds = z.seconds) := by
  have size : ∃ steps, (lexemesOf w (z.lexemes.map String.ofList)).size = steps + 1 + 3 := by
    cases z with
    | universal => exact ⟨8, rfl⟩
    | offset behind hours minutes => exact ⟨11, rfl⟩
  obtain ⟨steps, size⟩ := size
  obtain ⟨name, seconds, read, zone⟩ := readFrom_zone w z steps clock.now.date.year
  have whole := readFrom_time w (z.lexemes.map String.ofList) (steps + 1) clock.now.date.year
  rw [read] at whole
  have dateValid : w.date.isValid = true := by
    simp only [WallTime.isValid, Bool.and_eq_true] at valid
    exact valid.1.1.1.1
  have date := dateOf?_reading w dateValid clock name seconds
  refine ⟨zoneOf clock name seconds, ?_, zone clock⟩
  rw [parse?, String.toList_ofList]
  simp only [lexemes_text, size, whole, Option.bind_eq_bind, Option.bind_some]
  have resolves : (readingOf w).date.resolve? = some (some w.date.year, some w.date.month, some w.date.day) := by
    simp [readingOf, DateParts.resolve?, DateParts.byCustom]
  simp only [resolves, date, Option.bind_some]
  exact if_pos valid

end LogAnalysis.Calendar.FreeForm
