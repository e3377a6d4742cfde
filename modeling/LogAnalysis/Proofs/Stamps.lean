import LogAnalysis.Proofs.Text.Characters
import LogAnalysis.Proofs.Timestamps

/-!
# Stamps in texts

A stamp is told by its own text: read alone or with more text after it, it is the same one.

* `of_stampHead?`, `of_monthHead?`: the text that is read, from its first letter or digit to its last digit.
* `exists_fraction`: the text of a fraction of a second.
* `stamp?_of_append`: the start of a text without a stamp holds none.
* `FirstStamp.detect?_eq`: the timestamp in a line is that of the first stamp in numbers in it.
-/

namespace LogAnalysis.Timestamp

open Text Calendar

/-! ## Parsers and the texts that they read -/

def Reads {α : Type} (parser : List Char → Option (α × List Char)) (text : List Char) (value : α) : Prop :=
  ∀ rest, parser (text ++ rest) = some (value, rest)

theorem of_digits? {n value : Nat} {cs rest : List Char} (read : digits? n cs = some (value, rest)) :
    ∃ text, cs = text ++ rest ∧ text.length = n ∧ (∀ c ∈ text, isDecimal c = true) ∧
      Reads (digits? n) text value := by
  induction n generalizing cs value with
  | zero =>
      obtain ⟨rfl, rfl⟩ := Prod.mk.inj (Option.some.inj read)
      exact ⟨[], rfl, rfl, fun c none => absurd none List.not_mem_nil, fun _ => rfl⟩
  | succ n ih =>
      cases cs with
      | nil => cases read
      | cons c cs =>
          obtain ⟨d, isDigit, read⟩ := Option.bind_eq_some_iff.mp read
          obtain ⟨⟨tail, rest'⟩, others, same⟩ := Option.bind_eq_some_iff.mp read
          obtain ⟨rfl, rfl⟩ := Prod.mk.inj (Option.some.inj same)
          obtain ⟨text, rfl, rfl, decimal, reads⟩ := ih others
          have first : isDecimal c = true := by rw [isDecimal, isDigit]; rfl
          refine ⟨c :: text, rfl, rfl, List.forall_mem_cons.mpr ⟨first, decimal⟩, fun more => ?_⟩
          simp only [List.cons_append, digits?, isDigit, reads more, Option.bind_eq_bind, Option.bind_some]

theorem of_after? {c : Char} {cs rest : List Char} (read : after? c cs = some rest) : cs = c :: rest := by
  cases cs with
  | nil => cases read
  | cons d cs =>
      simp only [after?] at read
      split at read
      · next same => exact same ▸ congrArg _ (Option.some.inj read)
      · cases read

theorem of_afterBlank? {cs rest : List Char} (read : afterBlank? cs = some rest) :
    ∃ b blanks, cs = b :: blanks ++ rest ∧ isBlank b = true ∧ (∀ c ∈ blanks, isBlank c = true) := by
  cases cs with
  | nil => cases read
  | cons b cs =>
      simp only [afterBlank?] at read
      split at read
      · next blank =>
          obtain rfl := Option.some.inj read
          exact ⟨b, cs.takeWhile isBlank, congrArg (b :: ·) (List.takeWhile_append_dropWhile).symm, blank,
            fun c => List.mem_takeWhile_imp⟩
      · cases read

theorem afterBlank?_append {b c : Char} {blanks : List Char} (first : isBlank b = true)
    (others : ∀ c ∈ blanks, isBlank c = true) (stops : isBlank c = false) (cs : List Char) :
    afterBlank? (b :: blanks ++ c :: cs) = some (c :: cs) := by
  rw [List.cons_append, afterBlank?, if_pos first, List.dropWhile_append_of_pos others,
    List.dropWhile_cons_of_neg (by rw [stops]; exact Bool.false_ne_true)]

theorem of_oneOrTwo? {value : Nat} {cs rest : List Char} (read : oneOrTwo? cs = some (value, rest)) :
    ∃ d text, cs = d :: text ++ rest ∧ isDecimal d = true ∧
      ∀ c rest', isDecimal c = false → oneOrTwo? (d :: text ++ c :: rest') = some (value, c :: rest') := by
  rcases Option.or_eq_some_iff.mp read with two | ⟨-, one⟩
  · obtain ⟨text, rfl, length, decimal, reads⟩ := of_digits? two
    obtain ⟨a, b, rfl⟩ := List.length_eq_two.mp length
    refine ⟨a, [b], rfl, decimal a List.mem_cons_self, fun c rest' _ => ?_⟩
    rw [oneOrTwo?, reads, Option.some_or]
  · obtain ⟨text, rfl, length, decimal, reads⟩ := of_digits? one
    obtain ⟨a, rfl⟩ := List.length_eq_one_iff.mp length
    refine ⟨a, [], rfl, decimal a List.mem_cons_self, fun c rest' noDigit => ?_⟩
    have noSecond : digits? 2 ([a] ++ c :: rest') = none := by
      obtain ⟨value, isDigit⟩ := Option.isSome_iff_exists.mp (decimal a List.mem_cons_self)
      have noValue := Option.isNone_iff_eq_none.mp (Option.isSome_eq_false_iff.mp noDigit)
      simp [digits?, isDigit, noValue]
    rw [oneOrTwo?, noSecond, Option.none_or, reads]

theorem of_clockTime? {hours : List Char → Option (Nat × List Char)} {value : Nat × Nat × Nat} {cs rest : List Char}
    (read : clockTime? hours cs = some (value, rest)) :
    ∃ text d, hours cs = some (value.1, ':' :: (text ++ d :: rest)) ∧ isDecimal d = true ∧
      ∀ cs' rest', hours cs' = some (value.1, ':' :: (text ++ d :: rest')) →
        clockTime? hours cs' = some (value, rest') := by
  obtain ⟨⟨hour, afterHour⟩, isHour, read⟩ := Option.bind_eq_some_iff.mp read
  obtain ⟨beforeMinute, colon, read⟩ := Option.bind_eq_some_iff.mp read
  obtain ⟨⟨minute, afterMinute⟩, isMinute, read⟩ := Option.bind_eq_some_iff.mp read
  obtain ⟨beforeSecond, colon', read⟩ := Option.bind_eq_some_iff.mp read
  obtain ⟨⟨second, afterSecond⟩, isSecond, same⟩ := Option.bind_eq_some_iff.mp read
  obtain ⟨rfl, rfl⟩ := Prod.mk.inj (Option.some.inj same)
  obtain ⟨minutes, rfl, -, -, readsMinute⟩ := of_digits? isMinute
  obtain ⟨seconds, rfl, length, decimal, readsSecond⟩ := of_digits? isSecond
  obtain ⟨a, b, rfl⟩ := List.length_eq_two.mp length
  obtain rfl := of_after? colon
  obtain rfl := of_after? colon'
  refine ⟨minutes ++ [':', a], b, ?_, decimal b (List.mem_cons_of_mem _ List.mem_cons_self), fun cs' rest' isHour' => ?_⟩
  · rw [isHour, List.append_assoc]
    rfl
  · have readsSecond' : digits? 2 (a :: b :: rest') = some (second, rest') := readsSecond rest'
    rw [List.append_assoc] at isHour'
    simp only [clockTime?, isHour', List.cons_append, List.nil_append, after?_cons, Option.bind_eq_bind, Option.bind_some,
      readsMinute _, readsSecond']

theorem of_stampHead? {value : Date × Nat × Nat × Nat} {cs rest : List Char} (read : stampHead? cs = some (value, rest)) :
    ∃ c text d, cs = c :: (text ++ d :: rest) ∧ isDecimal c = true ∧ isDecimal d = true ∧
      ∀ rest', stampHead? (c :: (text ++ d :: rest')) = some (value, rest') := by
  obtain ⟨⟨year, afterYear⟩, isYear, read⟩ := Option.bind_eq_some_iff.mp read
  obtain ⟨beforeMonth, hyphen, read⟩ := Option.bind_eq_some_iff.mp read
  obtain ⟨⟨month, afterMonth⟩, isMonth, read⟩ := Option.bind_eq_some_iff.mp read
  obtain ⟨beforeDay, hyphen', read⟩ := Option.bind_eq_some_iff.mp read
  obtain ⟨⟨day, afterDay⟩, isDay, read⟩ := Option.bind_eq_some_iff.mp read
  obtain ⟨beforeTime, between, read⟩ := Option.bind_eq_some_iff.mp read
  obtain ⟨⟨time, afterTime⟩, isTime, same⟩ := Option.bind_eq_some_iff.mp read
  obtain ⟨rfl, rfl⟩ := Prod.mk.inj (Option.some.inj same)
  obtain ⟨text, d, isHour, isDigit, readsTime⟩ := of_clockTime? isTime
  obtain ⟨years, rfl, length, decimal, readsYear⟩ := of_digits? isYear
  obtain ⟨months, rfl, -, -, readsMonth⟩ := of_digits? isMonth
  obtain ⟨days, rfl, -, -, readsDay⟩ := of_digits? isDay
  obtain ⟨hours, rfl, -, -, readsHour⟩ := of_digits? isHour
  obtain ⟨y, y', y'', y''', rfl⟩ := List.length_eq_four.mp length
  obtain rfl := of_after? hyphen
  obtain rfl := of_after? hyphen'
  obtain ⟨sep, rfl, separates⟩ : ∃ sep, afterDay = sep :: (hours ++ ':' :: (text ++ d :: afterTime)) ∧
      ∀ cs, (after? ' ' (sep :: cs)).or (after? 'T' (sep :: cs)) = some cs := by
    rcases Option.or_eq_some_iff.mp between with blank | ⟨-, letter⟩
    · exact ⟨' ', of_after? blank, fun _ => rfl⟩
    · exact ⟨'T', of_after? letter, fun _ => rfl⟩
  refine ⟨y, [y', y'', y'''] ++ '-' :: (months ++ '-' :: (days ++ sep :: (hours ++ ':' :: text))), d, ?_,
    decimal y List.mem_cons_self, isDigit, fun rest' => ?_⟩
  · simp
  · have readsYear' (cs) : digits? 4 (y :: y' :: y'' :: y''' :: cs) = some (year, cs) := readsYear cs
    have readsTime' := readsTime _ rest' (readsHour (':' :: (text ++ d :: rest')))
    simp only [stampHead?, List.cons_append, List.nil_append, List.append_assoc, after?_cons, Option.bind_eq_bind,
      Option.bind_some, readsYear', readsMonth _, readsDay _, separates, readsTime']

theorem of_monthHead? {value : String × Nat × Nat × Nat × Nat} {cs rest : List Char}
    (read : monthHead? cs = some (value, rest)) :
    ∃ c text d, cs = c :: (text ++ d :: rest) ∧ c.isAlpha = true ∧ isDecimal d = true ∧
      ∀ rest', monthHead? (c :: (text ++ d :: rest')) = some (value, rest') := by
  rcases cs with _ | ⟨a, _ | ⟨b, _ | ⟨c, cs⟩⟩⟩
  · cases read
  · cases read
  · cases read
  simp only [monthHead?] at read
  split at read
  · cases read
  next letters =>
  obtain ⟨beforeDay, blank, read⟩ := Option.bind_eq_some_iff.mp read
  obtain ⟨⟨day, afterDay⟩, isDay, read⟩ := Option.bind_eq_some_iff.mp read
  obtain ⟨beforeTime, blank', read⟩ := Option.bind_eq_some_iff.mp read
  obtain ⟨⟨time, afterTime⟩, isTime, same⟩ := Option.bind_eq_some_iff.mp read
  obtain ⟨rfl, rfl⟩ := Prod.mk.inj (Option.some.inj same)
  obtain ⟨text, d, isHour, isDigit, readsTime⟩ := of_clockTime? isTime
  obtain ⟨d', days, rfl, decimalDay, readsDay⟩ := of_oneOrTwo? isDay
  obtain ⟨h, hours, rfl, decimalHour, readsHour⟩ := of_oneOrTwo? isHour
  obtain ⟨s, blanks, rfl, blankDay, othersDay⟩ := of_afterBlank? blank
  obtain ⟨s', blanks', rfl, blankTime, othersTime⟩ := of_afterBlank? blank'
  refine ⟨a, [b, c] ++ (s :: blanks ++ (d' :: days ++ (s' :: blanks' ++ (h :: hours ++ ':' :: text)))), d,
    ?_, ?_, isDigit, fun rest' => ?_⟩
  · simp
  · rw [Bool.not_eq_true, Bool.not_eq_false', Bool.and_eq_true, Bool.and_eq_true] at letters
    exact letters.1.1
  · have isLetters : (!(a.isAlpha && b.isAlpha && c.isAlpha)) = false := Bool.eq_false_iff.mpr letters
    have readsBlank := afterBlank?_append blankDay othersDay (isBlank_of_isDecimal decimalDay)
    have readsBlank' := afterBlank?_append blankTime othersTime (isBlank_of_isDecimal decimalHour)
    have readsDay' (cs) := readsDay s' cs (isDecimal_of_isBlank blankTime)
    have readsTime' := readsTime _ rest' (readsHour ':' _ (by decide))
    simp only [List.cons_append] at readsBlank readsBlank' readsDay' readsTime'
    simp only [monthHead?, List.cons_append, List.nil_append, List.append_assoc, isLetters, readsBlank, readsDay',
      readsBlank', readsTime', Option.bind_eq_bind, Option.bind_some]
    rfl

theorem exists_fraction (cs : List Char) :
    ∃ text, cs = text ++ (fraction cs).2 ∧ fraction text = ((fraction cs).1, []) ∧
      (text = [] ∨ ∃ text' d, text = text' ++ [d] ∧ isDecimal d = true) := by
  cases cs with
  | nil => exact ⟨[], rfl, rfl, .inl rfl⟩
  | cons c cs =>
      by_cases mark : ((c = '.' || c = ',') && !(cs.takeWhile isDecimal).isEmpty) = true
      · refine ⟨c :: cs.takeWhile isDecimal, ?_, ?_, .inr ?_⟩
        · simp only [fraction, mark, if_true, List.cons_append, List.takeWhile_append_dropWhile]
        · have digits : (cs.takeWhile isDecimal).takeWhile isDecimal = cs.takeWhile isDecimal :=
            List.takeWhile_eq_self_iff.mpr fun d => List.mem_takeWhile_imp
          have nothing : (cs.takeWhile isDecimal).dropWhile isDecimal = [] :=
            List.dropWhile_eq_nil_iff.mpr fun d => List.mem_takeWhile_imp
          simp only [fraction, digits, nothing, mark, if_true]
        · have nonempty : cs.takeWhile isDecimal ≠ [] := by
            rintro none
            simp [none] at mark
          obtain ⟨text, d, ends⟩ := (List.eq_nil_or_concat' (cs.takeWhile isDecimal)).resolve_left nonempty
          have member : d ∈ cs.takeWhile isDecimal := ends ▸ List.mem_append_right text List.mem_cons_self
          exact ⟨c :: text, d, congrArg (c :: ·) ends, List.mem_takeWhile_imp member⟩
      · refine ⟨[], ?_, ?_, .inl rfl⟩
        · simp [fraction, mark]
        · simp [fraction, mark]

theorem exists_last_digit {places : List Char} {d : Char} (text : List Char) (isDigit : isDecimal d = true)
    (ends : places = [] ∨ ∃ text' d', places = text' ++ [d'] ∧ isDecimal d' = true) :
    ∃ text' d', text ++ d :: places = text' ++ [d'] ∧ isDecimal d' = true := by
  rcases ends with rfl | ⟨text', d', rfl, isDigit'⟩
  · exact ⟨text, d, rfl, isDigit⟩
  · exact ⟨text ++ d :: text', d', by rw [List.append_assoc, List.cons_append], isDigit'⟩

/-! ## Stamps in texts -/

theorem stampAt?_of_stampHead? {value : Date × Nat × Nat × Nat} {cs rest : List Char}
    (read : stampHead? cs = some (value, rest)) :
    stampAt? cs = some (⟨value.1, value.2, (fraction rest).1⟩, (fraction rest).2) := by
  rw [stampAt?, read]
  rfl

theorem of_stampAt? {s : Stamp} {cs rest : List Char} (read : stampAt? cs = some (s, rest)) :
    ∃ c text d, cs = c :: (text ++ [d]) ++ rest ∧ isDecimal c = true ∧ isDecimal d = true ∧
      stampAt? (c :: (text ++ [d])) = some (s, []) := by
  obtain ⟨⟨value, afterHead⟩, isHead, -⟩ := Option.map_eq_some_iff.mp read
  rw [stampAt?_of_stampHead? isHead] at read
  obtain ⟨rfl, rfl⟩ := Prod.mk.inj (Option.some.inj read)
  obtain ⟨c, text, d, rfl, isDigit, isDigit', readsHead⟩ := of_stampHead? isHead
  obtain ⟨places, split, readsPlaces, ends⟩ := exists_fraction afterHead
  obtain ⟨text', d', whole, isLast⟩ := exists_last_digit text isDigit' ends
  refine ⟨c, text', d', ?_, isDigit, isLast, ?_⟩
  · rw [← whole, List.cons_append, List.append_assoc, List.cons_append, ← split]
  · rw [← whole, stampAt?_of_stampHead? (readsHead places), readsPlaces]

theorem stamp?_of_stampAt? {s : Stamp} {cs rest : List Char} (read : stampAt? cs = some (s, rest)) : stamp? cs = some s := by
  cases cs with
  | nil => cases read
  | cons c cs => rw [stamp?, read]

theorem stamp?_cons {c : Char} {cs : List Char} (unread : stampAt? (c :: cs) = none) : stamp? (c :: cs) = stamp? cs := by
  rw [stamp?, unread]

theorem stampAt?_of_not_isDecimal {c : Char} (noDigit : isDecimal c = false) (cs : List Char) :
    stampAt? (c :: cs) = none := by
  have unread : digits? 4 (c :: cs) = none := by
    rw [digits?, Option.isNone_iff_eq_none.mp (Option.isSome_eq_false_iff.mp noDigit)]
    rfl
  rw [stampAt?, stampHead?, unread]
  rfl

theorem stampAt?_append {s : Stamp} {cs rest : List Char} (read : stampAt? cs = some (s, rest)) (more : List Char) :
    ∃ found, stampAt? (cs ++ more) = some found := by
  obtain ⟨⟨value, afterHead⟩, isHead, -⟩ := Option.map_eq_some_iff.mp read
  obtain ⟨c, text, d, rfl, -, -, reads⟩ := of_stampHead? isHead
  have again : stampHead? (c :: (text ++ d :: afterHead) ++ more) = some (value, afterHead ++ more) := by
    rw [List.cons_append, List.append_assoc]
    exact reads _
  exact ⟨_, stampAt?_of_stampHead? again⟩

theorem stamp?_of_append {cs more : List Char} (without : stamp? (cs ++ more) = none) : stamp? cs = none := by
  induction cs with
  | nil => rfl
  | cons c cs ih =>
      cases read : stampAt? (c :: cs) with
      | none =>
          rw [stamp?_cons read]
          refine ih ?_
          cases whole : stampAt? (c :: cs ++ more) with
          | none => exact (stamp?_cons whole).symm.trans without
          | some found =>
              rw [stamp?_of_stampAt? whole] at without
              cases without
      | some found =>
          obtain ⟨longer, whole⟩ := stampAt?_append read more
          rw [stamp?_of_stampAt? whole] at without
          cases without

def FirstStamp (line stamp : List Char) : Prop :=
  ∃ before after s, line = before ++ (stamp ++ after) ∧ stampAt? (stamp ++ after) = some (s, after) ∧
    ∀ n < before.length, stampAt? (line.drop n) = none

theorem stamp?_append_of_none {before cs : List Char}
    (none : ∀ n < before.length, stampAt? ((before ++ cs).drop n) = .none) : stamp? (before ++ cs) = stamp? cs := by
  induction before with
  | nil => rfl
  | cons c before ih =>
      have here : stampAt? (c :: (before ++ cs)) = .none := none 0 (Nat.succ_pos _)
      rw [List.cons_append, stamp?_cons here]
      exact ih fun n less => none (n + 1) (Nat.succ_lt_succ less)

theorem FirstStamp.detect?_eq {line stamp : List Char} (first : FirstStamp line stamp) (clock : Clock) :
    detect? clock line = detect? clock stamp := by
  obtain ⟨before, after, s, rfl, read, none⟩ := first
  obtain ⟨c, text, d, whole, -, -, reads⟩ := of_stampAt? read
  obtain rfl := List.append_cancel_right whole
  have inLine : stamp? (before ++ (c :: (text ++ [d]) ++ after)) = some s :=
    (stamp?_append_of_none none).trans (stamp?_of_stampAt? read)
  rw [detect?, inLine, detect?, stamp?_of_stampAt? reads]

theorem exists_firstStamp {s : Stamp} {line : List Char} (found : stamp? line = some s) :
    ∃ stamp, FirstStamp line stamp := by
  induction line with
  | nil => cases found
  | cons c cs ih =>
      cases read : stampAt? (c :: cs) with
      | none =>
          rw [stamp?_cons read] at found
          obtain ⟨stamp, before, after, s', rfl, read', none⟩ := ih found
          refine ⟨stamp, c :: before, after, s', rfl, read', fun n less => ?_⟩
          cases n with
          | zero => exact read
          | succ n => exact none n (Nat.lt_of_succ_lt_succ less)
      | some here =>
          obtain ⟨b, text, d, whole, -⟩ := of_stampAt? read
          refine ⟨b :: (text ++ [d]), [], here.2, here.1, whole, whole ▸ read, fun n less => ?_⟩
          exact absurd less (Nat.not_lt_zero n)

theorem monthStamp?_congr {value : String × Nat × Nat × Nat × Nat} {cs cs' rest rest' : List Char}
    (read : monthHead? cs = some (value, rest)) (read' : monthHead? cs' = some (value, rest'))
    (places : (fraction rest).1 = (fraction rest').1) (clock : Clock) : monthStamp? clock cs = monthStamp? clock cs' := by
  simp only [monthStamp?, read, read', Option.map_some, places]

end LogAnalysis.Timestamp
