import Mathlib.Data.List.TakeWhile
import Mathlib.Data.Nat.Digits.Defs
import Mathlib.Tactic.Ring
import VoiceBridge.Config.Profile
import VoiceBridge.Config.Service

/-!
# Settings from the environment

A variable that holds a number of seconds is read by trimming blanks, dropping a plus sign and adding up
digits. Beside this reader stands the form of what it accepts: `Decimal.Writes` says which texts write a
number, and `ServiceConfig.Tells` adds the blanks and the bound. The two agree on every text
(`seconds?_eq_some_iff`), so what `ServiceConfig.fromLookup` makes of the variables can be told without
the reader: the first variable in error decides, or else every setting holds what its variable tells
(`fromLookup_by_grammar`).
-/

namespace VoiceBridge

/-! ### Blanks around a text -/

namespace Text

variable {front core back : List Char}

theorem dropWhile_isBlank_eq_self {s : List Char} (h : ∀ c ∈ s, isBlank c = false) :
    s.dropWhile isBlank = s := by
  cases s with
  | nil => rfl
  | cons c s => exact List.dropWhile_cons_of_neg (by simp [h c List.mem_cons_self])

/-- Blanks at the ends are all that is trimmed. -/
theorem exists_eq_append_trim (s : List Char) :
    ∃ front back, s = front ++ trim s ++ back ∧ ∀ c ∈ front ++ back, isBlank c = true := by
  refine ⟨s.takeWhile isBlank, ((s.dropWhile isBlank).reverse.takeWhile isBlank).reverse, ?_, ?_⟩
  · rw [trim, List.append_assoc, ← List.reverse_append, List.takeWhile_append_dropWhile,
      List.reverse_reverse, List.takeWhile_append_dropWhile]
  · intro c hc
    rcases List.mem_append.mp hc with hc | hc
    · exact List.mem_takeWhile_imp hc
    · exact List.mem_takeWhile_imp (List.mem_reverse.mp hc)

/-- What stands between blanks is trimmed to itself if it has none of its own. -/
theorem trim_append (hblank : ∀ c ∈ front ++ back, isBlank c = true)
    (hcore : ∀ c ∈ core, isBlank c = false) : trim (front ++ core ++ back) = core := by
  have hfront : ∀ c ∈ front, isBlank c = true := fun c hc => hblank c (List.mem_append_left back hc)
  have hback : ∀ c ∈ back, isBlank c = true := fun c hc => hblank c (List.mem_append_right front hc)
  have hreverse : ∀ c ∈ core.reverse, isBlank c = false := fun c hc => hcore c (List.mem_reverse.mp hc)
  rw [trim, List.append_assoc, List.dropWhile_append_of_pos hfront]
  cases core with
  | nil => simp [List.dropWhile_eq_nil_iff.mpr hback]
  | cons c core =>
    have hstart : (c :: core ++ back).dropWhile isBlank = c :: core ++ back :=
      List.dropWhile_cons_of_neg (by simp [hcore c List.mem_cons_self])
    rw [hstart, List.reverse_append, List.dropWhile_append_of_pos (by simpa using hback),
      dropWhile_isBlank_eq_self hreverse, List.reverse_reverse]

theorem trim_eq_nil_iff {s : List Char} : trim s = [] ↔ ∀ c ∈ s, isBlank c = true := by
  constructor
  · intro h
    obtain ⟨front, back, hs, hblank⟩ := exists_eq_append_trim s
    rwa [hs, h, List.append_nil]
  · intro h
    rw [trim, List.dropWhile_eq_nil_iff.mpr h]
    rfl

end Text

/-! ### Numbers in decimal -/

namespace Decimal

variable {s digits : List Char} {c : Char} {n acc bound : Nat}

def IsDigit (c : Char) : Prop := '0' ≤ c ∧ c ≤ '9'

/-- What a row of digits comes to, the last one counting least. -/
def total (digits : List Char) : Nat :=
  Nat.ofDigits 10 (digits.map fun c => c.toNat - '0'.toNat).reverse

/-- One or more digits that stand for `n`. -/
structure Numeral (digits : List Char) (n : Nat) : Prop where
  ne_nil : digits ≠ []
  isDigit : ∀ c ∈ digits, IsDigit c
  total_eq : total digits = n

/-- The text is a numeral for `n`, with or without a plus sign before it. -/
def Writes (s : List Char) (n : Nat) : Prop :=
  Numeral s n ∨ ∃ digits, s = '+' :: digits ∧ Numeral digits n

theorem total_cons (c : Char) (digits : List Char) :
    total (c :: digits) = (c.toNat - '0'.toNat) * 10 ^ digits.length + total digits := by
  rw [total, List.map_cons, Nat.ofDigits_reverse_cons, List.length_map, ← total]
  ring

theorem valueFrom_eq_some_iff :
    valueFrom acc s = some n ↔ (∀ c ∈ s, IsDigit c) ∧ acc * 10 ^ s.length + total s = n := by
  induction s generalizing acc with
  | nil => simp [valueFrom, total]
  | cons c s ih =>
    have htotal : (10 * acc + (c.toNat - '0'.toNat)) * 10 ^ s.length + total s =
        acc * 10 ^ (c :: s).length + total (c :: s) := by
      rw [total_cons, List.length_cons]
      ring
    by_cases hc : '0' ≤ c ∧ c ≤ '9'
    · have hdigit : digit? c = some (c.toNat - '0'.toNat) := if_pos hc
      rw [valueFrom, hdigit, ih, htotal, List.forall_mem_cons]
      simp only [IsDigit, hc, and_self, true_and]
    · have hdigit : digit? c = none := if_neg hc
      rw [valueFrom, hdigit, List.forall_mem_cons]
      simp only [IsDigit, hc, false_and, reduceCtorEq]

theorem value?_eq_some_iff : value? s = some n ↔ Numeral s n := by
  cases s with
  | nil => exact ⟨nofun, fun h => absurd rfl h.ne_nil⟩
  | cons c s =>
    rw [value?, valueFrom_eq_some_iff, Nat.zero_mul, Nat.zero_add]
    · exact ⟨fun ⟨hdigits, htotal⟩ => ⟨List.cons_ne_nil c s, hdigits, htotal⟩,
        fun h => ⟨h.isDigit, h.total_eq⟩⟩
    · exact List.cons_ne_nil c s

theorem not_numeral_plus (digits : List Char) : ¬ Numeral ('+' :: digits) n := by
  intro h
  exact absurd (h.isDigit '+' List.mem_cons_self).1 (by decide)

/-- The reader accepts exactly the texts that write a number below its bound, and reads that number. -/
theorem below?_eq_some_iff : below? bound s = some n ↔ Writes s n ∧ n < bound := by
  have hfilter (digits : List Char) :
      (value? digits).filter (· < bound) = some n ↔ Numeral digits n ∧ n < bound := by
    simp [Option.filter_eq_some_iff, value?_eq_some_iff]
  by_cases hplus : ∃ digits, s = '+' :: digits
  · obtain ⟨digits, rfl⟩ := hplus
    simp [below?, hfilter, Writes, not_numeral_plus]
  · have hbare : below? bound s = (value? s).filter (· < bound) := by
      rw [below?]
      exact fun digits h => hplus ⟨digits, h⟩
    have hwrites : Writes s n ↔ Numeral s n :=
      or_iff_left fun ⟨digits, h, _⟩ => hplus ⟨digits, h⟩
    rw [hbare, hfilter, hwrites]

theorem IsDigit.isBlank (h : IsDigit c) : Text.isBlank c = false := by
  obtain ⟨hlow, hhigh⟩ := h
  have hlow : 48 ≤ c.toNat := hlow
  have hhigh : c.toNat ≤ 57 := hhigh
  simp only [Text.isBlank, Bool.or_eq_false_iff, Bool.and_eq_false_imp, decide_eq_true_eq,
    decide_eq_false_iff_not, beq_eq_false_iff_ne, ne_eq]
  omega

theorem Writes.isBlank (h : Writes s n) : ∀ c ∈ s, Text.isBlank c = false := by
  rcases h with h | ⟨digits, rfl, h⟩
  · exact fun c hc => (h.isDigit c hc).isBlank
  · intro c hc
    rcases List.mem_cons.mp hc with rfl | hc
    · decide
    · exact (h.isDigit c hc).isBlank

end Decimal

/-! ### Seconds in variables -/

namespace ServiceConfig

open Decimal Text

variable {lookup : String → Option String} {name raw : String} {n : Nat} {told : Option Nat}
  {e : ConfigError} {cfg : ServiceConfig} {α : Type}

/-- The text holds a number of seconds below 2^64, with any blanks around it. -/
def Tells (raw : String) (n : Nat) : Prop :=
  ∃ front core back, raw.toList = front ++ core ++ back ∧ (∀ c ∈ front ++ back, isBlank c = true) ∧
    Writes core n ∧ n < Nat.pow 2 64

theorem seconds?_eq_some_iff : seconds? raw = some n ↔ Tells raw n := by
  rw [seconds?, below?_eq_some_iff]
  constructor
  · rintro ⟨hwrites, hbound⟩
    obtain ⟨front, back, h, hblank⟩ := exists_eq_append_trim raw.toList
    exact ⟨front, trim raw.toList, back, h, hblank, hwrites, hbound⟩
  · rintro ⟨front, core, back, h, hblank, hwrites, hbound⟩
    rw [h, trim_append hblank hwrites.isBlank]
    exact ⟨hwrites, hbound⟩

/-- The variable is set, but to no number of seconds. -/
def Malformed (lookup : String → Option String) (name raw : String) : Prop :=
  lookup name = some raw ∧ ∀ n, ¬ Tells raw n

theorem malformed_iff :
    Malformed lookup name raw ↔ lookup name = some raw ∧ seconds? raw = none := by
  simp only [Malformed, ← seconds?_eq_some_iff, Option.eq_none_iff_forall_ne_some, ne_eq]

/-- Only a variable in error cannot be read. -/
theorem readSeconds_eq_error_iff :
    readSeconds lookup name = .error e ↔
      ∃ raw, Malformed lookup name raw ∧ e = .invalidEnv name raw := by
  simp only [malformed_iff]
  constructor
  · intro h
    cases hraw : lookup name with
    | none => simp [readSeconds, hraw] at h
    | some raw =>
      cases hsecs : seconds? raw with
      | none =>
        simp only [readSeconds, hraw, hsecs] at h
        exact ⟨raw, ⟨rfl, hsecs⟩, (Except.error.inj h).symm⟩
      | some n => simp [readSeconds, hraw, hsecs] at h
  · rintro ⟨raw, ⟨hraw, hsecs⟩, rfl⟩
    simp only [readSeconds, hraw, hsecs]

/-- A setting is what its variable tells, in seconds, or the default if it is not set. -/
structure Holds (lookup : String → Option String) (name : String) (default : α) (ofSecs : Nat → α)
    (setting : α) : Prop where
  of_unset : lookup name = none → setting = default
  of_set : ∀ raw n, lookup name = some raw → Tells raw n → setting = ofSecs n

theorem holds_of_readSeconds (h : readSeconds lookup name = .ok told) (default : α)
    (ofSecs : Nat → α) : Holds lookup name default ofSecs ((told.map ofSecs).getD default) := by
  constructor
  · intro hraw
    simp only [readSeconds, hraw] at h
    rw [← Except.ok.inj h]
    rfl
  · intro raw n hraw htells
    simp only [readSeconds, hraw, seconds?_eq_some_iff.mpr htells] at h
    rw [← Except.ok.inj h]
    rfl

/-- The variables that hold seconds, in the order in which they are read. -/
def secondsVariables : List String :=
  [keepaliveVariable, pongVariable, closeVariable, connectVariable]

/-- What is wrong with a variable. -/
def fault? (lookup : String → Option String) (name : String) : Option ConfigError :=
  match readSeconds lookup name with
  | .ok _ => none
  | .error e => some e

theorem fault?_eq_some_iff :
    fault? lookup name = some e ↔ ∃ raw, Malformed lookup name raw ∧ e = .invalidEnv name raw := by
  rw [← readSeconds_eq_error_iff, fault?]
  cases readSeconds lookup name <;> simp

theorem fault?_eq_none_iff : fault? lookup name = none ↔ ∀ raw, ¬ Malformed lookup name raw := by
  simp only [Option.eq_none_iff_forall_ne_some, ne_eq, fault?_eq_some_iff]
  exact ⟨fun h raw hraw => h _ ⟨raw, hraw, rfl⟩, fun h _ ⟨raw, hraw, _⟩ => h raw hraw⟩

/-- The variables are read one after the other, up to the first fault. -/
theorem fromLookup_eq_error_iff_findSome? :
    fromLookup lookup = .error e ↔ secondsVariables.findSome? (fault? lookup) = some e := by
  rw [fromLookup]
  simp only [secondsVariables, List.findSome?_cons, List.findSome?_nil, fault?, bind, Except.bind]
  cases readSeconds lookup keepaliveVariable with
  | error e => simp
  | ok keepalive =>
    cases readSeconds lookup pongVariable with
    | error e => simp
    | ok pong =>
      cases readSeconds lookup closeVariable with
      | error e => simp
      | ok close => cases readSeconds lookup connectVariable <;> simp [pure, Except.pure]

/-- The variable in error with none before it decides. -/
theorem fromLookup_eq_error_iff :
    fromLookup lookup = .error e ↔
      ∃ before name after raw, secondsVariables = before ++ name :: after ∧
        (∀ earlier ∈ before, ∀ value, ¬ Malformed lookup earlier value) ∧
        Malformed lookup name raw ∧ e = .invalidEnv name raw := by
  rw [fromLookup_eq_error_iff_findSome?, List.findSome?_eq_some_iff]
  simp only [fault?_eq_some_iff, fault?_eq_none_iff]
  constructor
  · rintro ⟨before, name, after, hvariables, ⟨raw, hraw, he⟩, hbefore⟩
    exact ⟨before, name, after, raw, hvariables, hbefore, hraw, he⟩
  · rintro ⟨before, name, after, raw, hvariables, hbefore, hraw, he⟩
    exact ⟨before, name, after, hvariables, ⟨raw, hraw, he⟩, hbefore⟩

theorem exists_of_bind_eq_ok {β : Type} {x : Except ConfigError α} {f : α → Except ConfigError β}
    {b : β} (h : x >>= f = .ok b) : ∃ a, x = .ok a ∧ f a = .ok b := by
  cases x with
  | error e => cases h
  | ok a => exact ⟨a, rfl, h⟩

/-- Every setting holds what its variable tells. -/
structure Follows (cfg : ServiceConfig) (lookup : String → Option String) : Prop where
  keepalive : Holds lookup keepaliveVariable (some (.ofSecs 20))
    (fun n => if n = 0 then none else some (.ofSecs n)) cfg.keepalive
  pongTimeout : Holds lookup pongVariable (.ofSecs 60) .ofSecs cfg.pongTimeout
  closeTimeout : Holds lookup closeVariable (.ofSecs 5) .ofSecs cfg.closeTimeout
  connectTimeout : Holds lookup connectVariable (.ofSecs 10) .ofSecs cfg.connectTimeout
  logFilter : ∀ level, cfg.logFilter = some level ↔
    lookup logVariable = some level ∧ ∃ c ∈ level.toList, isBlank c = false

theorem follows_of_fromLookup (h : fromLookup lookup = .ok cfg) : cfg.Follows lookup := by
  obtain ⟨keepalive, hkeepalive, h⟩ := exists_of_bind_eq_ok h
  obtain ⟨pong, hpong, h⟩ := exists_of_bind_eq_ok h
  obtain ⟨close, hclose, h⟩ := exists_of_bind_eq_ok h
  obtain ⟨connect, hconnect, h⟩ := exists_of_bind_eq_ok h
  obtain rfl := Except.ok.inj h
  constructor
  case keepalive => exact holds_of_readSeconds hkeepalive _ _
  case pongTimeout => exact holds_of_readSeconds hpong _ _
  case closeTimeout => exact holds_of_readSeconds hclose _ _
  case connectTimeout => exact holds_of_readSeconds hconnect _ _
  case logFilter =>
    intro level
    simp [Option.filter_eq_some_iff, trim_eq_nil_iff]

/-! ### Keepalive -/

theorem exists_tells (h : fromLookup lookup = .ok cfg) (hraw : lookup keepaliveVariable = some raw) :
    ∃ n, Tells raw n := by
  by_contra hnone
  have herror : fromLookup lookup = .error (.invalidEnv keepaliveVariable raw) :=
    fromLookup_eq_error_iff.mpr ⟨[], keepaliveVariable, [pongVariable, closeVariable, connectVariable],
      raw, rfl, nofun, ⟨hraw, not_exists.mp hnone⟩, rfl⟩
  rw [h] at herror
  cases herror

theorem pos_of_mem_keepaliveOfSecs {interval : Span} (h : interval ∈ keepaliveOfSecs n) :
    0 < interval.nanos := by
  rw [keepaliveOfSecs] at h
  split at h
  · cases h
  · obtain rfl := Option.some.inj h
    simp only [Span.ofSecs]
    omega

theorem pos_of_mem_keepalive (h : fromLookup lookup = .ok cfg) :
    ∀ interval ∈ cfg.keepalive, 0 < interval.nanos := by
  have hholds := (follows_of_fromLookup h).keepalive
  cases hraw : lookup keepaliveVariable with
  | none =>
    rw [hholds.of_unset hraw]
    rintro interval ⟨rfl⟩
    decide
  | some raw =>
    obtain ⟨n, hn⟩ := exists_tells h hraw
    rw [hholds.of_set raw n hraw hn]
    exact fun interval => pos_of_mem_keepaliveOfSecs

/-- Zero seconds stand for no pings in a profile as well. -/
theorem keepaliveInterval_of_some {p : Profile} (h : p.keepaliveSecs = some n) (service : Option Span) :
    p.keepaliveInterval service = keepaliveOfSecs n := by
  cases n <;> simp [Profile.keepaliveInterval, h, keepaliveOfSecs]

theorem pos_of_mem_keepaliveInterval (h : fromLookup lookup = .ok cfg) (p : Profile) :
    ∀ interval ∈ p.keepaliveInterval cfg.keepalive, 0 < interval.nanos := by
  cases hsecs : p.keepaliveSecs with
  | none => simpa only [Profile.keepaliveInterval, hsecs] using pos_of_mem_keepalive h
  | some n =>
    rw [keepaliveInterval_of_some hsecs]
    exact fun interval => pos_of_mem_keepaliveOfSecs

/-! ### All variables together -/

/-- What the variables come to. The first variable that is set to no number of seconds below 2^64 is
reported with its value as it was found; if there is none, the settings are read, and each of them holds
exactly what its variable tells or else its default. No settings that are read this way let a profile send
pings without a pause between them. -/
theorem fromLookup_by_grammar (lookup : String → Option String) :
    (∀ e, fromLookup lookup = .error e ↔
      ∃ before name after raw, secondsVariables = before ++ name :: after ∧
        (∀ earlier ∈ before, ∀ value, ¬ Malformed lookup earlier value) ∧
        Malformed lookup name raw ∧ e = .invalidEnv name raw) ∧
    ((∀ name ∈ secondsVariables, ∀ raw, ¬ Malformed lookup name raw) →
      ∃ cfg, fromLookup lookup = .ok cfg ∧ cfg.Follows lookup) ∧
    ∀ cfg, fromLookup lookup = .ok cfg →
      ∀ p : Profile, ∀ interval ∈ p.keepaliveInterval cfg.keepalive, 0 < interval.nanos := by
  refine ⟨fun e => fromLookup_eq_error_iff, fun hnone => ?_,
    fun cfg hcfg => pos_of_mem_keepaliveInterval hcfg⟩
  cases hread : fromLookup lookup with
  | ok cfg => exact ⟨cfg, rfl, follows_of_fromLookup hread⟩
  | error e =>
    obtain ⟨before, name, after, raw, hname, -, hraw, -⟩ := fromLookup_eq_error_iff.mp hread
    exact absurd hraw (hnone name (by simp [hname]) raw)

/-- No pings, a silence that is one second too long, and a time for closing that makes no sense. -/
def overgrown (name : String) : Option String :=
  List.lookup name
    [(keepaliveVariable, "00"), (pongVariable, "18446744073709551616 "), (closeVariable, "-1")]

/-- The longest silence there is. -/
def patient (name : String) : Option String :=
  List.lookup name [(pongVariable, "\t+018446744073709551615"), (connectVariable, " 7\n")]

theorem fromLookup_by_grammar_overgrown :
    ((∀ earlier ∈ [keepaliveVariable], ∀ value, ¬ Malformed overgrown earlier value) ∧
      Malformed overgrown pongVariable "18446744073709551616 " ∧
      fromLookup overgrown = .error (.invalidEnv pongVariable "18446744073709551616 ")) ∧
    (∀ name ∈ secondsVariables, ∀ raw, ¬ Malformed patient name raw) ∧
    ∃ cfg, fromLookup patient = .ok cfg ∧ cfg.Follows patient ∧
      .ofSecs 3 ∈ (Profile.keepalive 3).keepaliveInterval cfg.keepalive ∧ 0 < (Span.ofSecs 3).nanos := by
  have hearlier : ∀ earlier ∈ [keepaliveVariable], fault? overgrown earlier = none := by decide
  have hbefore : ∀ earlier ∈ [keepaliveVariable], ∀ value, ¬ Malformed overgrown earlier value :=
    fun earlier h => fault?_eq_none_iff.mp (hearlier earlier h)
  have hpong : Malformed overgrown pongVariable "18446744073709551616 " :=
    malformed_iff.mpr ⟨rfl, rfl⟩
  have hall : ∀ name ∈ secondsVariables, fault? patient name = none := by decide
  have hpatient : ∀ name ∈ secondsVariables, ∀ raw, ¬ Malformed patient name raw :=
    fun name h => fault?_eq_none_iff.mp (hall name h)
  have herror := ((fromLookup_by_grammar overgrown).1 _).mpr
    ⟨[keepaliveVariable], pongVariable, [closeVariable, connectVariable], _, rfl, hbefore, hpong, rfl⟩
  obtain ⟨cfg, hcfg, hfollows⟩ := (fromLookup_by_grammar patient).2.1 hpatient
  have hpause := (fromLookup_by_grammar patient).2.2 cfg hcfg (.keepalive 3) (.ofSecs 3) rfl
  exact ⟨⟨hbefore, hpong, herror⟩, hpatient, cfg, hcfg, hfollows, rfl, hpause⟩

end ServiceConfig

end VoiceBridge
