import PolicyRuntime.AxisProfiles
import Mathlib.Data.Nat.Digits.Defs

/-!
# Unsigned integers in texts

A profile may write an unsigned integer as a text.  One pass over the trimmed
text checks its separators, its fraction and its range.  It accepts exactly the
literals of a small grammar, each with the integer which it denotes.
-/

namespace PolicyRuntime

/-- `std::isdigit` of the C locale. -/
def isDigit (character : Char) : Bool :=
  '0' ≤ character && character ≤ '9'

def digitOf (character : Char) : ℕ := character.toNat - '0'.toNat

/-! ## The pass over the text -/

/-- What the loop keeps from one character to the next. -/
structure IntegerScan where
  result : ℕ
  sawDigit : Bool
  decimal : Bool
  sawFractionalDigit : Bool
  deriving DecidableEq, Repr

namespace IntegerScan

def start : IntegerScan := ⟨0, false, false, false⟩

def digit (scan : IntegerScan) (value : ℕ) : Option IntegerScan :=
  if scan.decimal then
    if value ≠ 0 then none
    else some { scan with sawDigit := true, sawFractionalDigit := true }
  else if (2 ^ 64 - 1 - value) / 10 < scan.result then none
  else
    some { scan with
      sawDigit := true
      result := (scan.result * 10 + value) % 2 ^ 64 }

/-- The body of the loop, with the characters on both sides. -/
def character (scan : IntegerScan) (previous : Option Char) (value : Char)
    (next : Option Char) : Option IntegerScan :=
  if value = '_' then
    if previous.any isDigit && next.any isDigit then some scan else none
  else if value = '.' then
    if scan.decimal || !scan.sawDigit then none
    else some { scan with decimal := true }
  else if !isDigit value then none
  else scan.digit (digitOf value)

def text (previous : Option Char) :
    List Char → IntegerScan → Option IntegerScan
  | [], scan => some scan
  | value :: rest, scan =>
      (scan.character previous value rest.head?).bind
        (text (some value) rest)

/-- The checks after the loop. -/
def finish (scan : IntegerScan) (negative : Bool) : Option ℕ :=
  if !scan.sawDigit || (scan.decimal && !scan.sawFractionalDigit) ||
      (negative && scan.result ≠ 0) then
    none
  else
    some scan.result

end IntegerScan

def parsePydanticUnsignedIntegerString (input : String) : Option ℕ :=
  match trim input with
  | [] => none
  | first :: rest =>
      let signed := first = '+' || first = '-'
      let negative := first = '-'
      let previous := if signed then some first else none
      let body := if signed then rest else first :: rest
      if body.isEmpty then
        none
      else
        (IntegerScan.text previous body .start).bind (·.finish negative)

/-! ## The grammar -/

/-- Digits, with at most one underscore between two of them. -/
inductive DigitRun : List Char → Prop
  | last {digit : Char} (hdigit : isDigit digit = true) : DigitRun [digit]
  | cons {digit : Char} {rest : List Char} (hdigit : isDigit digit = true)
      (hrest : DigitRun rest) : DigitRun (digit :: rest)
  | separated {digit : Char} {rest : List Char}
      (hdigit : isDigit digit = true) (hrest : DigitRun rest) :
      DigitRun (digit :: '_' :: rest)

def runDigits (run : List Char) : List ℕ :=
  (run.filter isDigit).map digitOf

/-- The integer which a run of digits denotes. -/
def denotedInteger (run : List Char) : ℕ :=
  Nat.ofDigits 10 (runDigits run).reverse

inductive IntegerSign
  | absent
  | plus
  | minus
  deriving DecidableEq, Repr

def IntegerSign.text : IntegerSign → List Char
  | .absent => []
  | .plus => ['+']
  | .minus => ['-']

/-- An integral part and perhaps a fraction of zeros. -/
structure UnsignedLiteral where
  integral : List Char
  fraction : Option (List Char)
  integral_run : DigitRun integral
  fraction_run : ∀ zeros, fraction = some zeros → DigitRun zeros
  fraction_zero : ∀ zeros, fraction = some zeros →
    ∀ value ∈ runDigits zeros, value = 0

def UnsignedLiteral.text (literal : UnsignedLiteral) : List Char :=
  match literal.fraction with
  | none => literal.integral
  | some zeros => literal.integral ++ '.' :: zeros

def UnsignedLiteral.value (literal : UnsignedLiteral) : ℕ :=
  denotedInteger literal.integral

structure IntegerLiteral extends UnsignedLiteral where
  sign : IntegerSign

def IntegerLiteral.text (literal : IntegerLiteral) : List Char :=
  literal.sign.text ++ literal.toUnsignedLiteral.text

/-! ## Characters -/

theorem isDigit_iff {character : Char} :
    isDigit character = true ↔
      48 ≤ character.toNat ∧ character.toNat ≤ 57 := by
  unfold isDigit
  rw [Bool.and_eq_true, decide_eq_true_eq, decide_eq_true_eq,
    Char.le_def, Char.le_def]
  exact Iff.rfl

theorem digitOf_lt {character : Char} (hdigit : isDigit character = true) :
    digitOf character < 10 := by
  have hrange := isDigit_iff.mp hdigit
  have hzero : '0'.toNat = 48 := rfl
  unfold digitOf
  omega

theorem isDigit_underscore : isDigit '_' = false := by decide

theorem ne_underscore {character : Char}
    (hdigit : isDigit character = true) : character ≠ '_' := by
  rintro rfl
  cases hdigit

theorem ne_point {character : Char} (hdigit : isDigit character = true) :
    character ≠ '.' := by
  rintro rfl
  cases hdigit

theorem mem_runDigits_lt {run : List Char} {value : ℕ}
    (hvalue : value ∈ runDigits run) : value < 10 := by
  obtain ⟨character, hcharacter, rfl⟩ := List.mem_map.mp hvalue
  exact digitOf_lt (List.mem_filter.mp hcharacter).2

theorem runDigits_cons {digit : Char} {rest : List Char}
    (hdigit : isDigit digit = true) :
    runDigits (digit :: rest) = digitOf digit :: runDigits rest := by
  simp [runDigits, hdigit]

theorem runDigits_underscore (rest : List Char) :
    runDigits ('_' :: rest) = runDigits rest := by
  simp [runDigits, isDigit_underscore]

/-- A run starts with a digit. -/
theorem DigitRun.head {run : List Char} (hrun : DigitRun run) :
    ∃ digit rest, run = digit :: rest ∧ isDigit digit = true := by
  cases hrun with
  | last hdigit => exact ⟨_, _, rfl, hdigit⟩
  | cons hdigit _ => exact ⟨_, _, rfl, hdigit⟩
  | separated hdigit _ => exact ⟨_, _, rfl, hdigit⟩

theorem DigitRun.runDigits_ne_nil {run : List Char} (hrun : DigitRun run) :
    runDigits run ≠ [] := by
  obtain ⟨digit, rest, rfl, hdigit⟩ := hrun.head
  rw [runDigits_cons hdigit]
  exact List.cons_ne_nil _ _

/-! ## The loop over a run of digits -/

namespace IntegerScan

theorem character_digit
    (scan : IntegerScan) (previous : Option Char) {value : Char}
    (hdigit : isDigit value = true) (next : Option Char) :
    scan.character previous value next = scan.digit (digitOf value) := by
  unfold character
  rw [if_neg (ne_underscore hdigit), if_neg (ne_point hdigit), hdigit]
  rfl

theorem character_underscore
    (scan : IntegerScan) {before after : Char}
    (hbefore : isDigit before = true) (hafter : isDigit after = true) :
    scan.character (some before) '_' (some after) = some scan := by
  simp [character, hbefore, hafter]

theorem character_point (scan : IntegerScan) (previous next : Option Char) :
    scan.character previous '.' next =
      if scan.decimal || !scan.sawDigit then none
      else some { scan with decimal := true } := by
  have hpoint : '.' ≠ '_' := by decide
  rw [character, if_neg hpoint, if_pos rfl]

/-- The loop reads the digits of a run and passes over its underscores. -/
theorem text_run {run : List Char} (hrun : DigitRun run) :
    ∃ last, isDigit last = true ∧
      ∀ previous rest scan,
        text previous (run ++ rest) scan =
          ((runDigits run).foldlM digit scan).bind
            (text (some last) rest) := by
  induction hrun with
  | @last value hdigit =>
      refine ⟨value, hdigit, fun previous rest scan => ?_⟩
      rw [List.singleton_append, text, character_digit _ _ hdigit,
        runDigits_cons hdigit, List.foldlM_cons]
      cases scan.digit (digitOf value) with
      | none => rfl
      | some next => rfl
  | @cons value run hdigit hrun ih =>
      obtain ⟨last, hlast, hread⟩ := ih
      refine ⟨last, hlast, fun previous rest scan => ?_⟩
      rw [List.cons_append, text, character_digit _ _ hdigit,
        runDigits_cons hdigit, List.foldlM_cons]
      cases scan.digit (digitOf value) with
      | none => rfl
      | some next => exact hread (some value) rest next
  | @separated value run hdigit hrun ih =>
      obtain ⟨last, hlast, hread⟩ := ih
      obtain ⟨after, afterRest, rfl, hafter⟩ := hrun.head
      refine ⟨last, hlast, fun previous rest scan => ?_⟩
      rw [List.cons_append, text, character_digit _ _ hdigit,
        runDigits_cons hdigit, runDigits_underscore, List.foldlM_cons]
      cases scan.digit (digitOf value) with
      | none => rfl
      | some next =>
          have hskip : text (some value)
                ('_' :: (after :: afterRest) ++ rest) next =
              text (some '_') ((after :: afterRest) ++ rest) next := by
            rw [List.cons_append, text]
            change (character next (some value) '_' (some after)).bind _ = _
            rw [character_underscore next hdigit hafter]
            rfl
          exact hskip.trans (hread (some '_') rest next)

/-- After a digit the loop reads the rest of its run, and stops at the end or
at a point. -/
theorem run_of_text_digit {scan final : IntegerScan} {value : Char}
    {rest : List Char} (hdigit : isDigit value = true)
    (htext : text (some value) rest scan = some final) :
    ∃ run tail, value :: rest = run ++ tail ∧ DigitRun run ∧
      (tail = [] ∨ ∃ fraction, tail = '.' :: fraction) := by
  induction hlength : rest.length using Nat.strong_induction_on
    generalizing scan value rest with
  | _ length ih =>
  cases rest with
  | nil => exact ⟨[value], [], rfl, .last hdigit, Or.inl rfl⟩
  | cons next rest =>
      rw [List.length_cons] at hlength
      rw [text, Option.bind_eq_some_iff] at htext
      obtain ⟨middle, hcharacter, htext⟩ := htext
      by_cases hunderscore : next = '_'
      · subst hunderscore
        cases rest with
        | nil => simp [character] at hcharacter
        | cons after rest =>
            have hafter : isDigit after = true := by
              by_contra hnot
              simp [character, hnot] at hcharacter
            rw [text, character_digit _ _ hafter,
              Option.bind_eq_some_iff] at htext
            obtain ⟨third, _, htext⟩ := htext
            rw [List.length_cons] at hlength
            obtain ⟨run, tail, hsplit, hrun, htail⟩ :=
              ih rest.length (by omega) hafter htext rfl
            refine ⟨value :: '_' :: run, tail, ?_, .separated hdigit hrun,
              htail⟩
            rw [hsplit]
            rfl
      · by_cases hpoint : next = '.'
        · subst hpoint
          exact ⟨[value], '.' :: rest, rfl, .last hdigit,
            Or.inr ⟨rest, rfl⟩⟩
        · have hnext : isDigit next = true := by
            by_contra hnot
            simp [character, hunderscore, hpoint, hnot] at hcharacter
          obtain ⟨run, tail, hsplit, hrun, htail⟩ :=
            ih rest.length (by omega) hnext htext rfl
          refine ⟨value :: run, tail, ?_, .cons hdigit hrun, htail⟩
          rw [hsplit]
          rfl

/-- Where neither an underscore nor a point may stand, the loop starts with a
run of digits. -/
theorem run_of_text {scan final : IntegerScan} {previous : Option Char}
    {body : List Char} (hprevious : previous.any isDigit = false)
    (hpoint : (scan.decimal || !scan.sawDigit) = true) (hbody : body ≠ [])
    (htext : text previous body scan = some final) :
    ∃ run tail, body = run ++ tail ∧ DigitRun run ∧
      (tail = [] ∨ ∃ fraction, tail = '.' :: fraction) := by
  cases body with
  | nil => exact absurd rfl hbody
  | cons value rest =>
      rw [text, Option.bind_eq_some_iff] at htext
      obtain ⟨middle, hcharacter, htext⟩ := htext
      have hdigit : isDigit value = true := by
        by_contra hnot
        by_cases hunderscore : value = '_'
        · simp [character, hunderscore, hprevious] at hcharacter
        · by_cases hvalue : value = '.'
          · rw [hvalue, character_point, if_pos hpoint] at hcharacter
            cases hcharacter
          · simp [character, hunderscore, hvalue, hnot] at hcharacter
      exact run_of_text_digit hdigit htext

/-! ## The digits of a run -/

theorem le_foldl_digits (values : List ℕ) (result : ℕ) :
    result ≤ values.foldl (fun total value => total * 10 + value) result := by
  induction values generalizing result with
  | nil => exact le_rfl
  | cons value values ih =>
      have hnext := ih (result * 10 + value)
      rw [List.foldl_cons]
      omega

/-- The digits before a point are read as long as their integer is in
range. -/
theorem foldlM_integral
    {values : List ℕ} (hvalues : ∀ value ∈ values, value < 10)
    {scan final : IntegerScan} (hdecimal : scan.decimal = false)
    (hresult : scan.result < 2 ^ 64) :
    values.foldlM digit scan = some final ↔
      values.foldl (fun total value => total * 10 + value) scan.result <
          2 ^ 64 ∧
        final = { scan with
          sawDigit := scan.sawDigit || !values.isEmpty
          result := values.foldl (fun total value => total * 10 + value)
            scan.result } := by
  induction values generalizing scan with
  | nil =>
      rw [List.foldlM_nil, Option.pure_def, Option.some.injEq]
      simp only [List.foldl_nil, hresult, List.isEmpty_nil, Bool.not_true,
        Bool.or_false, true_and]
      exact eq_comm
  | cons value values ih =>
      have hvalue := hvalues value (List.mem_cons_self ..)
      have hrest := fun other hother =>
        hvalues other (List.mem_cons_of_mem value hother)
      rw [List.foldlM_cons, List.foldl_cons, digit, hdecimal]
      by_cases hlarge : (2 ^ 64 - 1 - value) / 10 < scan.result
      · -- the rest of the digits cannot bring the integer back into range
        have hgrows := le_foldl_digits values (scan.result * 10 + value)
        simp only [Bool.false_eq_true, if_false, if_pos hlarge]
        constructor
        · intro h
          cases h
        · rintro ⟨hlt, -⟩
          omega
      · have hlt : scan.result * 10 + value < 2 ^ 64 := by omega
        simp only [Bool.false_eq_true, if_false, if_neg hlarge,
          Nat.mod_eq_of_lt hlt]
        change values.foldlM digit _ = some final ↔ _
        rw [ih hrest rfl hlt]
        simp

/-- The digits after a point have to be zeros. -/
theorem foldlM_fraction
    {values : List ℕ} {scan final : IntegerScan}
    (hdecimal : scan.decimal = true) (hsaw : scan.sawDigit = true) :
    values.foldlM digit scan = some final ↔
      (∀ value ∈ values, value = 0) ∧
        final = { scan with
          sawFractionalDigit :=
            scan.sawFractionalDigit || !values.isEmpty } := by
  induction values generalizing scan with
  | nil =>
      rw [List.foldlM_nil, Option.pure_def, Option.some.injEq]
      simp only [List.not_mem_nil, false_implies, implies_true, true_and,
        List.isEmpty_nil, Bool.not_true, Bool.or_false]
      exact eq_comm
  | cons value values ih =>
      rw [List.foldlM_cons, digit, hdecimal, if_pos rfl]
      by_cases hzero : value = 0
      · rw [if_neg (not_not.mpr hzero)]
        change values.foldlM digit _ = some final ↔ _
        rw [ih rfl rfl]
        simp [hzero, hsaw]
      · rw [if_pos hzero]
        constructor
        · intro h
          cases h
        · rintro ⟨hall, -⟩
          exact absurd (hall value (List.mem_cons_self ..)) hzero

theorem foldl_runDigits (run : List Char) :
    (runDigits run).foldl (fun total value => total * 10 + value) 0 =
      denotedInteger run := by
  rw [denotedInteger, Nat.ofDigits_eq_foldr, List.foldr_reverse]
  congr 1
  funext total value
  simp [mul_comm, add_comm]

/-- What the loop has after the integral part. -/
def afterIntegral (run : List Char) : IntegerScan :=
  ⟨denotedInteger run, true, false, false⟩

theorem foldlM_start {run : List Char} (hrun : DigitRun run)
    {final : IntegerScan} :
    (runDigits run).foldlM digit start = some final ↔
      denotedInteger run < 2 ^ 64 ∧ final = afterIntegral run := by
  have hdigits : ∀ value ∈ runDigits run, value < 10 :=
    fun value hvalue => mem_runDigits_lt hvalue
  have hnonempty : (runDigits run).isEmpty = false :=
    List.isEmpty_eq_false_iff.mpr hrun.runDigits_ne_nil
  rw [foldlM_integral hdigits rfl (by decide)]
  simp only [start, foldl_runDigits, hnonempty, afterIntegral]
  simp

theorem finish_eq_some_iff
    {scan : IntegerScan} {negative : Bool} {value : ℕ} :
    scan.finish negative = some value ↔
      scan.sawDigit = true ∧
        (scan.decimal = true → scan.sawFractionalDigit = true) ∧
        scan.result = value ∧ (negative = true → value = 0) := by
  unfold finish
  split
  · rename_i hrefused
    constructor
    · intro h
      cases h
    · rintro ⟨hsaw, hfraction, rfl, hsign⟩
      cases hdecimal : scan.decimal <;> cases hnegative : negative <;>
        simp_all
  · rename_i haccepted
    rw [Option.some.injEq]
    constructor
    · rintro rfl
      cases hsaw : scan.sawDigit <;> cases hdecimal : scan.decimal <;>
        cases hnegative : negative <;> simp_all
    · rintro ⟨-, -, hvalue, -⟩
      exact hvalue

theorem text_point (previous : Option Char) (fraction run : List Char) :
    text previous ('.' :: fraction) (afterIntegral run) =
      text (some '.') fraction ⟨denotedInteger run, true, true, false⟩ := by
  rw [text, character_point]
  rfl

/-- The loop stops with a value exactly on an unsigned literal in range. -/
theorem text_eq_some_iff
    {previous : Option Char} (hprevious : previous.any isDigit = false)
    {body : List Char} {negative : Bool} {value : ℕ} :
    (text previous body start).bind (·.finish negative) = some value ↔
      ∃ literal : UnsignedLiteral, body = literal.text ∧
        literal.value = value ∧ value < 2 ^ 64 ∧
        (negative = true → value = 0) := by
  rw [Option.bind_eq_some_iff]
  constructor
  · rintro ⟨scan, htext, hfinish⟩
    rw [finish_eq_some_iff] at hfinish
    obtain ⟨hsaw, hfraction, hresult, hsign⟩ := hfinish
    have hbody : body ≠ [] := by
      rintro rfl
      obtain rfl := Option.some.inj htext
      cases hsaw
    obtain ⟨run, tail, rfl, hrun, htail⟩ :=
      run_of_text hprevious rfl hbody htext
    obtain ⟨last, -, hread⟩ := text_run hrun
    rw [hread, Option.bind_eq_some_iff] at htext
    obtain ⟨middle, hintegral, htext⟩ := htext
    obtain ⟨hrange, rfl⟩ := (foldlM_start hrun).mp hintegral
    rcases htail with rfl | ⟨fraction, rfl⟩
    · obtain rfl := Option.some.inj htext
      refine ⟨⟨run, none, hrun, nofun, nofun⟩, List.append_nil run, hresult,
        ?_, hsign⟩
      rw [← hresult]
      exact hrange
    · rw [text_point] at htext
      have hnonempty : fraction ≠ [] := by
        rintro rfl
        obtain rfl := Option.some.inj htext
        cases hfraction rfl
      obtain ⟨zeros, tail, rfl, hzeros, htail⟩ :=
        run_of_text rfl rfl hnonempty htext
      obtain ⟨lastZero, -, hreadZeros⟩ := text_run hzeros
      rw [hreadZeros, Option.bind_eq_some_iff] at htext
      obtain ⟨third, hfold, htext⟩ := htext
      obtain ⟨hzero, rfl⟩ := (foldlM_fraction rfl rfl).mp hfold
      rcases htail with rfl | ⟨again, rfl⟩
      · obtain rfl := Option.some.inj htext
        refine ⟨⟨run, some zeros, hrun, ?_, ?_⟩, ?_, hresult, ?_, hsign⟩
        · rintro _ ⟨⟩
          exact hzeros
        · rintro _ ⟨⟩
          exact hzero
        · rw [List.append_nil]
          rfl
        · rw [← hresult]
          exact hrange
      · -- a second point
        rw [text, character_point] at htext
        cases htext
  · rintro ⟨literal, rfl, hvalue, hrange, hsign⟩
    have hintegral : (runDigits literal.integral).foldlM digit start =
        some (afterIntegral literal.integral) :=
      (foldlM_start literal.integral_run).mpr
        ⟨by rw [← UnsignedLiteral.value, hvalue]; exact hrange, rfl⟩
    obtain ⟨last, -, hread⟩ := text_run literal.integral_run
    unfold UnsignedLiteral.text
    cases hfraction : literal.fraction with
    | none =>
        refine ⟨afterIntegral literal.integral, ?_, ?_⟩
        · have hall := hread previous [] start
          rw [List.append_nil, hintegral] at hall
          exact hall
        · rw [finish_eq_some_iff]
          exact ⟨rfl, nofun, hvalue, hsign⟩
    | some zeros =>
        have hzeros := literal.fraction_run zeros hfraction
        have hnonempty : (runDigits zeros).isEmpty = false :=
          List.isEmpty_eq_false_iff.mpr hzeros.runDigits_ne_nil
        obtain ⟨lastZero, -, hreadZeros⟩ := text_run hzeros
        refine ⟨⟨denotedInteger literal.integral, true, true, true⟩, ?_, ?_⟩
        · have hfold : (runDigits zeros).foldlM digit
                ⟨denotedInteger literal.integral, true, true, false⟩ =
              some ⟨denotedInteger literal.integral, true, true,
                false || !(runDigits zeros).isEmpty⟩ :=
            (foldlM_fraction rfl rfl).mpr
              ⟨literal.fraction_zero zeros hfraction, rfl⟩
          have hall := hreadZeros (some '.') []
            ⟨denotedInteger literal.integral, true, true, false⟩
          rw [List.append_nil, hfold, hnonempty] at hall
          rw [hread, hintegral, Option.bind_some, text_point]
          exact hall
        · rw [finish_eq_some_iff]
          exact ⟨rfl, fun _ => rfl, hvalue, hsign⟩

end IntegerScan

theorem UnsignedLiteral.text_head (literal : UnsignedLiteral) :
    ∃ digit rest, literal.text = digit :: rest ∧ isDigit digit = true := by
  obtain ⟨digit, rest, hintegral, hdigit⟩ := literal.integral_run.head
  unfold text
  rw [hintegral]
  cases literal.fraction with
  | none => exact ⟨digit, rest, rfl, hdigit⟩
  | some zeros => exact ⟨digit, rest ++ '.' :: zeros, rfl, hdigit⟩

theorem IntegerLiteral.text_cons
    {literal : IntegerLiteral} {first : Char} {rest : List Char}
    (htext : first :: rest = literal.text) :
    (literal.sign = .absent ∧ isDigit first = true ∧
        first :: rest = literal.toUnsignedLiteral.text) ∨
      (literal.sign = .plus ∧ first = '+' ∧
        rest = literal.toUnsignedLiteral.text) ∨
      (literal.sign = .minus ∧ first = '-' ∧
        rest = literal.toUnsignedLiteral.text) := by
  unfold text at htext
  cases hsign : literal.sign with
  | absent =>
      rw [hsign] at htext
      change first :: rest = literal.toUnsignedLiteral.text at htext
      obtain ⟨digit, digits, hdigits, hdigit⟩ :=
        literal.toUnsignedLiteral.text_head
      have hfirst := (List.cons.inj (htext.trans hdigits)).1
      rw [← hfirst] at hdigit
      exact Or.inl ⟨rfl, hdigit, htext⟩
  | plus =>
      rw [hsign] at htext
      obtain ⟨hfirst, hrest⟩ := List.cons.inj htext
      exact Or.inr (Or.inl ⟨rfl, hfirst, hrest⟩)
  | minus =>
      rw [hsign] at htext
      obtain ⟨hfirst, hrest⟩ := List.cons.inj htext
      exact Or.inr (Or.inr ⟨rfl, hfirst, hrest⟩)

/-- The test for an empty body changes nothing. -/
theorem IntegerScan.text_of_nonempty
    (previous : Option Char) (body : List Char) (negative : Bool) :
    (if body.isEmpty = true then none
      else (IntegerScan.text previous body start).bind (·.finish negative)) =
      (IntegerScan.text previous body start).bind (·.finish negative) := by
  cases body with
  | nil => rfl
  | cons value rest => rfl

/-- A text gives an integer exactly when it is, trimmed, a literal of that
integer, which is in range and not below zero. -/
theorem parsePydanticUnsignedIntegerString_eq_some_iff
    (input : String) (value : ℕ) :
    parsePydanticUnsignedIntegerString input = some value ↔
      ∃ literal : IntegerLiteral, trim input = literal.text ∧
        literal.value = value ∧ value < 2 ^ 64 ∧
        (literal.sign = .minus → value = 0) := by
  unfold parsePydanticUnsignedIntegerString
  cases trim input with
  | nil =>
      constructor
      · intro h
        cases h
      · rintro ⟨literal, htext, -⟩
        obtain ⟨digit, rest, hunsigned, -⟩ :=
          literal.toUnsignedLiteral.text_head
        rw [IntegerLiteral.text, hunsigned] at htext
        cases hsign : literal.sign <;> rw [hsign] at htext <;> cases htext
  | cons first rest =>
      by_cases hplus : first = '+'
      · subst hplus
        change (if rest.isEmpty = true then none
          else (IntegerScan.text (some '+') rest .start).bind
            (·.finish false)) = some value ↔ _
        rw [IntegerScan.text_of_nonempty,
          IntegerScan.text_eq_some_iff (by decide)]
        constructor
        · rintro ⟨literal, rfl, hvalue, hrange, -⟩
          exact ⟨⟨literal, .plus⟩, rfl, hvalue, hrange, nofun⟩
        · rintro ⟨literal, htext, hvalue, hrange, -⟩
          rcases literal.text_cons htext with ⟨-, hdigit, -⟩ |
            ⟨-, -, hrest⟩ | ⟨-, hfirst, -⟩
          · cases hdigit
          · exact ⟨_, hrest, hvalue, hrange, nofun⟩
          · exact absurd hfirst (by decide)
      · by_cases hminus : first = '-'
        · subst hminus
          change (if rest.isEmpty = true then none
            else (IntegerScan.text (some '-') rest .start).bind
              (·.finish true)) = some value ↔ _
          rw [IntegerScan.text_of_nonempty,
            IntegerScan.text_eq_some_iff (by decide)]
          constructor
          · rintro ⟨literal, rfl, hvalue, hrange, hzero⟩
            exact ⟨⟨literal, .minus⟩, rfl, hvalue, hrange,
              fun _ => hzero rfl⟩
          · rintro ⟨literal, htext, hvalue, hrange, hzero⟩
            rcases literal.text_cons htext with ⟨-, hdigit, -⟩ |
              ⟨-, hfirst, -⟩ | ⟨hsign, -, hrest⟩
            · cases hdigit
            · exact absurd hfirst (by decide)
            · exact ⟨_, hrest, hvalue, hrange, fun _ => hzero hsign⟩
        · simp only [decide_eq_false hplus, decide_eq_false hminus,
            Bool.or_false, Bool.false_eq_true, if_false]
          rw [IntegerScan.text_of_nonempty,
            IntegerScan.text_eq_some_iff rfl]
          constructor
          · rintro ⟨literal, htext, hvalue, hrange, -⟩
            exact ⟨⟨literal, .absent⟩, htext, hvalue, hrange, nofun⟩
          · rintro ⟨literal, htext, hvalue, hrange, -⟩
            rcases literal.text_cons htext with ⟨-, -, hrest⟩ |
              ⟨-, hfirst, -⟩ | ⟨-, hfirst, -⟩
            · exact ⟨_, hrest, hvalue, hrange, nofun⟩
            · exact absurd hfirst hplus
            · exact absurd hfirst hminus

end PolicyRuntime
