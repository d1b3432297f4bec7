import KeaGauge.Settings.Basic
import KeaGauge.Json.Value
import KeaGauge.Kea.Service
import KeaGauge.Toml.Value
/-!
# Settings in a document

Settings are read from the values of a document format, which is TOML or
JSON. A section is a table, in which members of unknown names are passed
over, or a list of its fields in their order. Every field may be left out but
the address and the port of a target.

Members are decoded in the order of the document, and the first fault counts;
only then are fields missed.
-/

namespace KeaGauge.Settings

open Net (Family)

/-! ## Formats -/

/-- What a value shows of itself. -/
inductive View (α : Type) where
  | text (s : String)
  | number (n : Int)
  | truth (b : Bool)
  | list (items : List α)
  | table (members : List (String × α))
  | nothing
  | other

/-- A document format: what its values show, which of them say no more than
that they are there, and whether a list may have more items than the section
has fields. -/
structure Format (α : Type) where
  view : α → View α
  isBare : α → Bool
  admitsMore : Bool

/-- JSON as a format of settings. -/
def json : Format Json.Value where
  view
    | .null => .nothing
    | .bool b => .truth b
    | .int n => .number n
    | .float _ => .other
    | .string s => .text s
    | .list items => .list items
    | .object members => .table members
  isBare
    | .null => true
    | _ => false
  admitsMore := false

/-- TOML as a format of settings. A point in time shows as a table without
members. -/
def toml : Format Toml.Value where
  view
    | .text s => .text s
    | .integer n => .number n
    | .float _ => .other
    | .boolean b => .truth b
    | .moment _ => .table []
    | .list items => .list items
    | .table entries => .table entries
  isBare
    | .list [] | .table [] => true
    | _ => false
  admitsMore := true

/-! ## Faults -/

/-- Why a document does not hold settings. -/
inductive Fault where
  | missingField (name : String)
  | unknownPolicy (name : String)
  | unsupportedVersion (n : Nat)
  /-- A value is of a wrong kind or out of range. -/
  | malformed
deriving DecidableEq, Repr

/-- What is said of a fault that has a text of its own. -/
def Fault.message? : Fault → Option String
  | missingField name => some ("missing field \x60" ++ name ++ "\x60")
  | unknownPolicy name =>
    some ("unknown variant \x60" ++ name
      ++ "\x60, expected \x60whole-cycle\x60 or \x60affected-subnets\x60")
  | unsupportedVersion n => some (Kea.unsupportedVersion n)
  | malformed => none

/-! ## Fields -/

variable {α : Type}

/-- A string. -/
def Format.text (f : Format α) (v : α) : Except Fault String :=
  match f.view v with
  | .text s => .ok s
  | _ => .error .malformed

/-- A truth value. -/
def Format.truth (f : Format α) (v : α) : Except Fault Bool :=
  match f.view v with
  | .truth b => .ok b
  | _ => .error .malformed

/-- A number below a bound. -/
def Format.numberBelow (f : Format α) (bound : Nat) (v : α) : Except Fault Nat :=
  match f.view v with
  | .number (.ofNat n) => if n < bound then .ok n else .error .malformed
  | _ => .error .malformed

/-- A word of 64 bits. -/
def Format.word64 (f : Format α) (v : α) : Except Fault UInt64 :=
  (f.numberBelow UInt64.size v).map UInt64.ofNat

/-- A word of 16 bits. -/
def Format.word16 (f : Format α) (v : α) : Except Fault UInt16 :=
  (f.numberBelow UInt16.size v).map UInt16.ofNat

/-- A name, or nothing. -/
def Format.name (f : Format α) (v : α) : Except Fault (Option String) :=
  match f.view v with
  | .nothing => .ok none
  | _ => (f.text v).map some

/-- A family of addresses, by its number. -/
def Format.family (f : Format α) (v : α) : Except Fault Family :=
  match f.numberBelow 256 v with
  | .error fault => .error fault
  | .ok n =>
    match Family.ofNumber? n with
    | some family => .ok family
    | none => .error (.unsupportedVersion n)

/-- The policy of a name. -/
def namedPolicy (name : String) : Except Fault DiscardPolicy :=
  match DiscardPolicy.ofText? name with
  | some policy => .ok policy
  | none => .error (.unknownPolicy name)

/-- A policy: its name, or a table with its name as the only member. -/
def Format.policy (f : Format α) (v : α) : Except Fault DiscardPolicy :=
  match f.view v with
  | .text name => namedPolicy name
  | .table [(name, payload)] =>
    match namedPolicy name with
    | .error fault => .error fault
    | .ok policy => if f.isBare payload then .ok policy else .error .malformed
  | _ => .error .malformed

/-! ## Sections -/

/-- A field of a section: its name, and how a value of a document sets it. -/
structure Field (α σ : Type) where
  name : String
  set : α → σ → Except Fault σ

/-- The field of a name whose values are decoded by `decode`. -/
def Field.of {β σ : Type} (name : String) (decode : α → Except Fault β) (put : β → σ → σ) :
    Field α σ :=
  ⟨name, fun v s => (decode v).map (put · s)⟩

variable {σ : Type}

/-- Sets the field that a member names, if there is one. -/
def setMember (fields : List (Field α σ)) (s : σ) (member : String × α) : Except Fault σ :=
  match fields.find? (·.name = member.1) with
  | some field => field.set member.2 s
  | none => .ok s

/-- Sets a field to an item. -/
def setItem (s : σ) (pair : Field α σ × α) : Except Fault σ := pair.1.set pair.2 s

/-- A section, starting from what it is when every field is left out. -/
def Format.decodeSection (f : Format α) (fields : List (Field α σ)) (start : σ) (v : α) : Except Fault σ :=
  match f.view v with
  | .table members => members.foldlM (setMember fields) start
  | .list items =>
    if items.length ≤ fields.length ∨ f.admitsMore then
      (fields.zip items).foldlM setItem start
    else .error .malformed
  | _ => .error .malformed

/-- The fields of how passes are made. -/
def Format.pollingFields (f : Format α) : List (Field α Polling) :=
  [.of "interval_secs" f.word64 fun n s => { s with interval := n },
    .of "max_parallel_targets" f.word64 fun n s => { s with parallel := n }]

/-- How passes are made. -/
def Format.polling (f : Format α) : α → Except Fault Polling :=
  f.decodeSection f.pollingFields .standard

/-- The fields of how a cycle is run. -/
def Format.collectingFields (f : Format α) : List (Field α Collecting) :=
  [.of "discard_policy" f.policy fun p s => { s with policy := p },
    .of "statistic_concurrency" f.word64 fun n s => { s with concurrency := n }]

/-- How a cycle is run. -/
def Format.collecting (f : Format α) : α → Except Fault Collecting :=
  f.decodeSection f.collectingFields .standard

/-- The fields of where metrics are written to. -/
def Format.carbonFields (f : Format α) : List (Field α Carbon) :=
  [.of "host" f.text fun x s => { s with host := x },
    .of "port" f.word16 fun x s => { s with port := x },
    .of "root" f.text fun x s => { s with root := x },
    .of "per_server_paths" f.truth fun x s => { s with perServerPaths := x },
    .of "timeout_secs" f.word64 fun x s => { s with timeout := x }]

/-- Where metrics are written to. -/
def Format.carbon (f : Format α) : α → Except Fault Carbon :=
  f.decodeSection f.carbonFields .standard

/-- A target of which the address and the port may be missing yet. -/
structure Target.Draft where
  address : Option String
  port : Option UInt16
  target : Target

/-- The draft without any field. -/
def Target.Draft.empty : Target.Draft := ⟨none, none, .ofEndpoint "" 0⟩

/-- The target of a draft; what is missing is missed as a table or as a list
misses it. -/
def Target.Draft.finish (isList : Bool) (d : Target.Draft) : Except Fault Target :=
  match d.address, d.port with
  | none, _ => .error (if isList then .malformed else .missingField "address")
  | some _, none => .error (if isList then .malformed else .missingField "port")
  | some address, some port => .ok { d.target with address := address, port := port }

/-- Whether a value shows as a list. -/
def Format.isList (f : Format α) (v : α) : Bool :=
  match f.view v with
  | .list _ => true
  | _ => false

/-- The fields of a target. -/
def Format.targetFields (f : Format α) : List (Field α Target.Draft) :=
  [.of "name" f.name fun x d => { d with target := { d.target with name := x } },
    .of "address" f.text fun x d => { d with address := some x },
    .of "port" f.word16 fun x d => { d with port := some x },
    .of "https" f.truth fun x d => { d with target := { d.target with https := x } },
    .of "timeout_secs" f.word64 fun x d => { d with target := { d.target with timeout := x } },
    .of "dhcp_version" f.family fun x d => { d with target := { d.target with family := x } }]

/-- A Control Agent to collect from. -/
def Format.target (f : Format α) (v : α) : Except Fault Target :=
  match f.decodeSection f.targetFields .empty v with
  | .error fault => .error fault
  | .ok draft => draft.finish (f.isList v)

/-- The Control Agents to collect from. -/
def Format.targets (f : Format α) (v : α) : Except Fault (List Target) :=
  match f.view v with
  | .list items => items.mapM f.target
  | _ => .error .malformed

/-- The sections of settings. -/
def Format.sections (f : Format α) : List (Field α Settings) :=
  [.of "poller" f.polling fun x s => { s with polling := x },
    .of "collector" f.collecting fun x s => { s with collecting := x },
    .of "carbon" f.carbon fun x s => { s with carbon := x },
    .of "targets" f.targets fun x s => { s with targets := x }]

/-- **The settings that a document holds.** -/
def Format.decode (f : Format α) : α → Except Fault Settings :=
  f.decodeSection f.sections .standard

end KeaGauge.Settings
