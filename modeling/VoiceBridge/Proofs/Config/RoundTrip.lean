import Mathlib.Data.List.Basic
import VoiceBridge.Config.Decode
import VoiceBridge.Config.Encode

/-!
# Settings read back from values

Settings that are written as a value and read again are the same settings, in every dialect. The written
form may be loosened before it is read: members whose field has its default may be left out, and members
that name no field may be put in anywhere (`Loosens`).

A reader asks for its fields by name, so all it sees of a loose form is what `lookup` finds there and that
no field is there twice. That is settled once for all readers (`optional_of_loosens`,
`required_of_loosens`, `unrepeated_of_loosens`), and a nested form may be as loose as the one around it.
-/

namespace VoiceBridge

open Value

/-! ### Loose forms -/

/-- Members in which those of `full` stand in their order except for the omitted ones, and all others
carry none of the names. -/
def Loosens (names omitted : List String) (full loose : List (String × Value)) : Prop :=
  loose.filter (fun m => names.contains m.1) = full.filter (fun m => !omitted.contains m.1)

section Loosens

variable {names omitted : List String} {full loose : List (String × Value)} {name : String}
  {α : Type} {read : Value → Option α} {v : Value} {x default : α}

/-- A filter by name leaves what it keeps in its place. -/
theorem lookup_filter (keep : String → Bool) (members : List (String × Value)) (name : String) :
    (members.filter (fun m => keep m.1)).lookup name =
      if keep name then members.lookup name else none := by
  induction members with
  | nil => simp
  | cons m members ih =>
    obtain ⟨key, v⟩ := m
    by_cases hkey : name = key
    · subst hkey
      cases hkeep : keep name with
      | true => simp [hkeep]
      | false => simpa [hkeep] using ih
    · have hne : (name == key) = false := by simpa using hkey
      cases hkeep : keep key with
      | true => simpa [hkeep, hne, List.lookup_cons] using ih
      | false => simpa [hkeep, hne, List.lookup_cons] using ih

theorem lookup_of_loosens (h : Loosens names omitted full loose) (hname : name ∈ names) :
    loose.lookup name = if name ∈ omitted then none else full.lookup name := by
  have hloose := lookup_filter names.contains loose name
  have hfull := lookup_filter (fun key => !omitted.contains key) full name
  rw [if_pos (List.contains_iff_mem.mpr hname)] at hloose
  calc loose.lookup name = (full.filter (fun m => !omitted.contains m.1)).lookup name := by
        rw [← hloose, h]
    _ = if name ∈ omitted then none else full.lookup name := by
        rw [hfull]
        simp

/-- A field that may be missing is read alike from a loose form, provided that it is left out for its
default only. -/
theorem optional_of_loosens (h : Loosens names omitted full loose) (hname : name ∈ names)
    (hfull : full.lookup name = some v) (hread : read v = some x)
    (hdefault : name ∈ omitted → x = default) : optional loose name read default = some x := by
  rw [Value.optional, lookup_of_loosens h hname, hfull]
  by_cases homitted : name ∈ omitted
  · rw [if_pos homitted, hdefault homitted]
  · rw [if_neg homitted]
    exact hread

/-- A field that has to be there is not left out. -/
theorem required_of_loosens (h : Loosens names omitted full loose) (hname : name ∈ names)
    (hfull : full.lookup name = some v) (hread : read v = some x) (hkept : name ∉ omitted) :
    required loose name read = some x := by
  rw [required, lookup_of_loosens h hname, hfull, if_neg hkept]
  exact hread

/-- What is put in names no field, so a field that is written once is there once at most. -/
theorem unrepeated_of_loosens (h : Loosens names omitted full loose)
    (hfull : (full.map Prod.fst).Nodup) : Unrepeated names loose := by
  have hkept : (loose.map Prod.fst).filter names.contains =
      (full.filter (fun m => !omitted.contains m.1)).map Prod.fst := by
    rw [List.filter_map, ← h]
    rfl
  rw [Unrepeated, hkept]
  exact hfull.sublist (List.filter_sublist.map Prod.fst)

theorem Loosens.refl (h : ∀ m ∈ full, m.1 ∈ names) : Loosens names [] full full := by
  have hall : full.filter (fun m => names.contains m.1) = full :=
    List.filter_eq_self.mpr (fun m hm => List.contains_iff_mem.mpr (h m hm))
  rw [Loosens, hall]
  simp

end Loosens

/-! ### Numbers and values that may be missing -/

theorem natBelow?_nat {n bound : Nat} (h : n < bound) : (Value.nat n).natBelow? bound = some n :=
  if_pos h

theorem nullable_of_ne_null {α : Type} {read : Value → Option α} {v : Value} (h : v ≠ .null) :
    nullable read v = (read v).map some := by
  cases v with
  | null => exact absurd rfl h
  | _ => rfl

theorem nullable_ofOption {α : Type} {read : Value → Option α} {write : α → Value} {o : Option α}
    (hnull : ∀ a, write a ≠ .null) (h : ∀ a ∈ o, read (write a) = some a) :
    nullable read (ofOption write o) = some o := by
  cases o with
  | none => rfl
  | some a =>
    have hread := h a rfl
    rw [ofOption, nullable_of_ne_null (hnull a), hread]
    rfl

/-! ### Credentials -/

namespace Credentials

/-- The members of the record form. -/
def members (c : Credentials) : List (String × Value) :=
  match c with
  | .none => [("type", .text "none")]
  | .basic username password =>
    [("type", .text "basic"), ("username", .text username), ("password", .text password)]
  | .bearer apiKey => [("type", .text "bearer"), ("api_key", .text apiKey)]

theorem encode_eq (c : Credentials) : c.encode = .record c.members := by
  cases c <;> rfl

/-- The type and the fields of credentials of that kind. -/
def ownNames (c : Credentials) : List String := c.members.map Prod.fst

/-- Credentials with members put in that name neither their type nor one of their fields. -/
def LooselyWritten (c : Credentials) (v : Value) : Prop :=
  ∃ loose, v = .record loose ∧ Loosens c.ownNames [] c.members loose

theorem looselyWritten_encode (c : Credentials) : c.LooselyWritten c.encode :=
  ⟨c.members, encode_eq c, Loosens.refl (fun _ hm => List.mem_map_of_mem hm)⟩

theorem decode?_of_looselyWritten {c : Credentials} {v : Value} (h : c.LooselyWritten v) :
    decode? v = some c := by
  obtain ⟨loose, rfl, hloose⟩ := h
  have honce : Unrepeated c.ownNames loose :=
    unrepeated_of_loosens hloose (by cases c <;> simp [members])
  have hfield (name : String) (s : String) (hname : name ∈ c.ownNames)
      (hfull : c.members.lookup name = some (.text s)) : required loose name text? = some s :=
    required_of_loosens hloose hname hfull rfl List.not_mem_nil
  cases c with
  | none =>
    have htype := hfield "type" "none" (by decide) rfl
    have honce : Unrepeated ("type" :: fieldNames "none") loose := honce
    simp [decode?, htype, honce, ofFields?]
  | basic username password =>
    have htype := hfield "type" "basic" List.mem_cons_self rfl
    have husername := hfield "username" username (by simp [ownNames, members]) rfl
    have hpassword := hfield "password" password (by simp [ownNames, members]) rfl
    have honce : Unrepeated ("type" :: fieldNames "basic") loose := honce
    simp [decode?, htype, honce, ofFields?, husername, hpassword]
  | bearer apiKey =>
    have htype := hfield "type" "bearer" List.mem_cons_self rfl
    have hkey := hfield "api_key" apiKey (by simp [ownNames, members]) rfl
    have honce : Unrepeated ("type" :: fieldNames "bearer") loose := honce
    simp [decode?, htype, honce, ofFields?, hkey]

end Credentials

/-! ### Profiles -/

theorem FinishSignal.decode?_encode (d : Dialect) (s : FinishSignal) : decode? d s.encode = some s := by
  cases s <;> rfl

namespace Profile

/-- The members of the record form. -/
def members (p : Profile) : List (String × Value) :=
  [("tag", .text p.tag), ("bidirectional_audio", .bool p.bidirectional),
    ("keepalive_secs", .ofOption .nat p.keepaliveSecs), ("finish", p.finish.encode),
    ("subprotocol", .ofOption .text p.subprotocol)]

/-- The field of that name has its default. -/
def IsStandard (p : Profile) : String → Prop
  | "tag" => p.tag = plain.tag
  | "bidirectional_audio" => p.bidirectional = plain.bidirectional
  | "keepalive_secs" => p.keepaliveSecs = plain.keepaliveSecs
  | "finish" => p.finish = plain.finish
  | "subprotocol" => p.subprotocol = plain.subprotocol
  | _ => False

/-- A profile with fields left out that have their defaults, and with members put in that name no
field. -/
def LooselyWritten (p : Profile) (v : Value) : Prop :=
  ∃ loose omitted, v = .record loose ∧ (∀ name ∈ omitted, p.IsStandard name) ∧
    Loosens fieldNames omitted p.members loose

theorem looselyWritten_encode (p : Profile) : p.LooselyWritten p.encode :=
  ⟨p.members, [], rfl, fun _ h => absurd h List.not_mem_nil,
    Loosens.refl (by simp [members, fieldNames])⟩

/-- The seconds between pings fit into their field. -/
def InRange (p : Profile) : Prop := ∀ secs ∈ p.keepaliveSecs, secs < Nat.pow 2 64

theorem decode?_of_looselyWritten {p : Profile} (hrange : p.InRange) (d : Dialect) {v : Value}
    (h : p.LooselyWritten v) : decode? d v = some p := by
  obtain ⟨loose, omitted, rfl, hstandard, hloose⟩ := h
  have htag : optional loose "tag" text? plain.tag = some p.tag :=
    optional_of_loosens hloose (by decide) rfl rfl (hstandard "tag")
  have hbidirectional : optional loose "bidirectional_audio" bool? plain.bidirectional =
      some p.bidirectional :=
    optional_of_loosens hloose (by decide) rfl rfl (hstandard "bidirectional_audio")
  have hkeepalive : optional loose "keepalive_secs" (nullable (natBelow? (Nat.pow 2 64)))
      plain.keepaliveSecs = some p.keepaliveSecs :=
    optional_of_loosens hloose (by decide) rfl
      (nullable_ofOption nofun (fun secs hsecs => natBelow?_nat (hrange secs hsecs)))
      (hstandard "keepalive_secs")
  have hfinish : optional loose "finish" (FinishSignal.decode? d) plain.finish = some p.finish :=
    optional_of_loosens hloose (by decide) rfl (FinishSignal.decode?_encode d p.finish)
      (hstandard "finish")
  have hsubprotocol : optional loose "subprotocol" (nullable text?) plain.subprotocol =
      some p.subprotocol :=
    optional_of_loosens hloose (by decide) rfl (nullable_ofOption nofun (fun _ _ => rfl))
      (hstandard "subprotocol")
  have honce : Unrepeated fieldNames loose := unrepeated_of_loosens hloose (by simp [members])
  simp [decode?, fields?, honce, htag, hbidirectional, hkeepalive, hfinish, hsubprotocol]

end Profile

/-! ### Connection settings -/

namespace ConnectionConfig

/-- The members of the record form, given the credentials and the profile in theirs. -/
def members (c : ConnectionConfig) (credentials profile : Value) : List (String × Value) :=
  [("session_id", .text c.sessionId), ("host", .text c.host), ("port", .nat c.port),
    ("path", .text c.path), ("use_tls", .bool c.useTls), ("audio_capacity", .nat c.audioCapacity),
    ("header_reserve", .nat c.headerReserve), ("low_space_threshold", .nat c.lowSpace),
    ("max_message_size", .nat c.maxMessage), ("credentials", credentials), ("profile", profile)]

/-- The field of that name has a default, and it is the one. -/
def IsStandard (c : ConnectionConfig) (name : String) : Prop :=
  let standard : ConnectionConfig := { sessionId := c.sessionId, host := c.host }
  match name with
  | "port" => c.port = standard.port
  | "path" => c.path = standard.path
  | "use_tls" => c.useTls = standard.useTls
  | "audio_capacity" => c.audioCapacity = standard.audioCapacity
  | "header_reserve" => c.headerReserve = standard.headerReserve
  | "low_space_threshold" => c.lowSpace = standard.lowSpace
  | "max_message_size" => c.maxMessage = standard.maxMessage
  | "credentials" => c.credentials = standard.credentials
  | "profile" => c.profile = standard.profile
  | _ => False

/-- Settings with fields left out that have their defaults, and with members put in that name no field;
credentials and profile are written as loosely. -/
def LooselyWritten (c : ConnectionConfig) (v : Value) : Prop :=
  ∃ loose omitted credentials profile, v = .record loose ∧
    c.credentials.LooselyWritten credentials ∧ c.profile.LooselyWritten profile ∧
    (∀ name ∈ omitted, c.IsStandard name) ∧
    Loosens fieldNames omitted (c.members credentials profile) loose

theorem looselyWritten_encode (c : ConnectionConfig) : c.LooselyWritten c.encode :=
  ⟨_, [], _, _, rfl, c.credentials.looselyWritten_encode, c.profile.looselyWritten_encode,
    fun _ h => absurd h List.not_mem_nil, Loosens.refl (by simp [members, fieldNames])⟩

/-- Every number fits into its field. -/
structure InRange (c : ConnectionConfig) : Prop where
  port_lt : c.port < Nat.pow 2 16
  audioCapacity_lt : c.audioCapacity < Nat.pow 2 64
  headerReserve_lt : c.headerReserve < Nat.pow 2 64
  lowSpace_lt : c.lowSpace < Nat.pow 2 64
  maxMessage_lt : c.maxMessage < Nat.pow 2 64
  profile : c.profile.InRange

theorem decode?_of_looselyWritten {c : ConnectionConfig} (hrange : c.InRange) (d : Dialect)
    {v : Value} (h : c.LooselyWritten v) : decode? d v = some c := by
  obtain ⟨loose, omitted, credentials, profile, rfl, hcredentials, hprofile, hstandard, hloose⟩ := h
  have hsession : required loose "session_id" text? = some c.sessionId :=
    required_of_loosens hloose (by decide) rfl rfl (hstandard "session_id")
  have hhost : required loose "host" text? = some c.host :=
    required_of_loosens hloose (by decide) rfl rfl (hstandard "host")
  have hport : optional loose "port" (natBelow? (Nat.pow 2 16)) 443 = some c.port :=
    optional_of_loosens hloose (by decide) rfl (natBelow?_nat hrange.port_lt) (hstandard "port")
  have hpath : optional loose "path" text? "/" = some c.path :=
    optional_of_loosens hloose (by decide) rfl rfl (hstandard "path")
  have htls : optional loose "use_tls" bool? true = some c.useTls :=
    optional_of_loosens hloose (by decide) rfl rfl (hstandard "use_tls")
  have haudio : optional loose "audio_capacity" (natBelow? (Nat.pow 2 64)) 32000 =
      some c.audioCapacity :=
    optional_of_loosens hloose (by decide) rfl (natBelow?_nat hrange.audioCapacity_lt)
      (hstandard "audio_capacity")
  have hreserve : optional loose "header_reserve" (natBelow? (Nat.pow 2 64)) 16 =
      some c.headerReserve :=
    optional_of_loosens hloose (by decide) rfl (natBelow?_nat hrange.headerReserve_lt)
      (hstandard "header_reserve")
  have hlow : optional loose "low_space_threshold" (natBelow? (Nat.pow 2 64)) 3200 =
      some c.lowSpace :=
    optional_of_loosens hloose (by decide) rfl (natBelow?_nat hrange.lowSpace_lt)
      (hstandard "low_space_threshold")
  have hmessage : optional loose "max_message_size" (natBelow? (Nat.pow 2 64)) 650000 =
      some c.maxMessage :=
    optional_of_loosens hloose (by decide) rfl (natBelow?_nat hrange.maxMessage_lt)
      (hstandard "max_message_size")
  have hown : optional loose "credentials" Credentials.decode? .none = some c.credentials :=
    optional_of_loosens hloose (by decide) rfl (Credentials.decode?_of_looselyWritten hcredentials)
      (hstandard "credentials")
  have hshape : optional loose "profile" (Profile.decode? d) {} = some c.profile :=
    optional_of_loosens hloose (by decide) rfl
      (Profile.decode?_of_looselyWritten hrange.profile d hprofile) (hstandard "profile")
  have honce : Unrepeated fieldNames loose := unrepeated_of_loosens hloose (by simp [members])
  simp [decode?, fields?, honce, hsession, hhost, hport, hpath, htls, haudio, hreserve, hlow, hmessage,
    hown, hshape]

example :
    decode? .jsonText (.record [("session_id", .text "a"), ("host", .text "b"), ("host", .text "c")]) =
      none := rfl

/-- Settings read back from their written form are the same, and so are those read from any loosening of
it. -/
theorem read_back {c : ConnectionConfig} (hrange : c.InRange) (d : Dialect) :
    decode? d c.encode = some c ∧ ∀ v, c.LooselyWritten v → decode? d v = some c := by
  constructor
  · exact decode?_of_looselyWritten hrange d c.looselyWritten_encode
  · intro v hv
    exact decode?_of_looselyWritten hrange d hv

/-- Settings with most fields at their defaults. -/
def speech : ConnectionConfig where
  sessionId := "call-9"
  host := "stt.example.com"
  lowSpace := 0
  credentials := .bearer "abc"
  profile := { keepaliveSecs := some 0, finish := .emptyBinary, subprotocol := some "speech" }

/-- Their credentials with a member that means nothing for that type. -/
def terseCredentials : List (String × Value) :=
  [("username", .text "nobody"), ("type", .text "bearer"), ("api_key", .text "abc")]

/-- As few fields of their profile as will do. -/
def terseProfile : List (String × Value) :=
  [("keepalive_secs", .nat 0), ("finish", .text "empty_binary"), ("port", .nat 8080),
    ("subprotocol", .text "speech")]

/-- As few of the settings as will do. -/
def terse : List (String × Value) :=
  [("comment", .null), ("session_id", .text "call-9"), ("host", .text "stt.example.com"),
    ("low_space_threshold", .nat 0), ("credentials", .record terseCredentials),
    ("profile", .record terseProfile)]

theorem read_back_terse :
    speech.InRange ∧ speech.LooselyWritten (.record terse) ∧
      decode? .json speech.encode = some speech ∧ decode? .toml (.record terse) = some speech := by
  have hrange : speech.InRange := by
    constructor
    case profile =>
      intro secs hsecs
      cases hsecs
      decide
    all_goals decide
  have hcredentials : speech.credentials.LooselyWritten (.record terseCredentials) :=
    ⟨terseCredentials, rfl, rfl⟩
  have hprofile : speech.profile.LooselyWritten (.record terseProfile) := by
    refine ⟨terseProfile, ["tag", "bidirectional_audio"], rfl, ?_, rfl⟩
    simp [Profile.IsStandard, speech, Profile.plain]
  have hterse : speech.LooselyWritten (.record terse) := by
    refine ⟨terse, ["port", "path", "use_tls", "audio_capacity", "header_reserve", "max_message_size"],
      _, _, rfl, hcredentials, hprofile, ?_, rfl⟩
    simp [IsStandard, speech]
  exact ⟨hrange, hterse, (read_back hrange .json).1, (read_back hrange .toml).2 _ hterse⟩

end ConnectionConfig

end VoiceBridge
