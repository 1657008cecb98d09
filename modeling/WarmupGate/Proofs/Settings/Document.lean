import WarmupGate.Proofs.Json.Library
import WarmupGate.Settings.Document

/-!
# Settings survive their text

Settings are read back from their text, and from every other object text that tells them: members in
any order, unknown ones among them, the empty ones null or left out, strings spelled in any way, and
the endpoints within them likewise. An object without a member that cannot be left out, or with a
known one twice, is refused, whatever else it holds. A number is told by its plain digits only, and
names consist of whole characters. Which lists are read as settings is not said here.
-/
namespace WarmupGate

namespace Json

variable {g s rest r : List Char} {α δ : Type} {read : Reader α} {put : δ → α → δ} {d d' : δ}

theorem exists_into {json : List (String × Json)} {Holds : δ → Prop} {name : String} {w : Json}
    {a : α} (only : ∀ v, (name, v) ∈ json → v = w)
    (reads : ∀ {g s rest : List Char}, Gap g → Tells w s → Apart rest →
      read (g ++ (s ++ rest)) = .ok (a, rest))
    (keeps : ∀ d, Holds d → Holds (put d a)) :
    ∀ v, (name, v) ∈ json → ∀ d, Holds d → ∀ {g s rest : List Char}, Gap g → Tells v s →
      Apart rest → ∃ d', into read put d (g ++ (s ++ rest)) = .ok (d', rest) ∧ Holds d' := by
  intro v there d holds g s rest gap tells apart
  obtain rfl := only v there
  refine ⟨put d a, ?_, keeps d holds⟩
  rw [into, reads gap tells apart]
  rfl

theorem exists_of_into (h : into read put d s = .ok (d', r)) :
    ∃ a, d' = put d a ∧ read s = .ok (a, r) := by
  obtain ⟨⟨a, r⟩, given, same⟩ := map_eq_ok_iff.1 h
  obtain ⟨rfl, rfl⟩ := Prod.mk.inj same
  exact ⟨a, rfl, given⟩

/-- Where a member of this kind was taken, its reader has read the value. -/
theorem TakesAll.exists_read_into {members : List (Member δ)} {es : List Entry} {e : Entry}
    {filled : δ → Bool} (takes : TakesAll members rest es d d') (lawful : Json.Lawful members)
    (there : e ∈ es) (member : ⟨e.name, filled, into read put⟩ ∈ members) :
    ∃ a behind, read (e.value.before ++ (e.value.text ++ behind)) = .ok (a, behind) := by
  obtain ⟨_, _, behind, given⟩ := takes.exists_read lawful member there rfl
  obtain ⟨a, -, given⟩ := exists_of_into given
  exact ⟨a, behind, given⟩

theorem Confined.into (confined : Confined read) (put : δ → α → δ) (d : δ) :
    Confined (into read put d) := confined.map (put d)

namespace Library.Lawful

variable {lib : Library} (lawful : lib.Lawful)

include lawful

theorem confined_word16 : Confined lib.word16 := (lawful.confined_natural _).map _

theorem confined_word64 : Confined lib.word64 := (lawful.confined_natural _).map _

theorem word16_of_tells {n : UInt16} (tells : Tells (.int n.toNat) s) (gap : Gap g)
    (apart : Apart rest) : lib.word16 (g ++ (s ++ rest)) = .ok (n, rest) := by
  have small : n.toNat < Word.size 16 := n.toNat_lt
  rw [word16, lawful.natural_of_tells tells small (by decide) gap apart]
  simp [Except.map]

theorem word64_of_tells {n : UInt64} (tells : Tells (.int n.toNat) s) (gap : Gap g)
    (apart : Apart rest) : lib.word64 (g ++ (s ++ rest)) = .ok (n, rest) := by
  have small : n.toNat < Word.size 64 := n.toNat_lt
  rw [word64, lawful.natural_of_tells tells small (Nat.le_refl _) gap apart]
  simp [Except.map]

theorem option_of_tells_string {o : Option String}
    (tells : Tells (Settings.optionalJson .string o) s) (gap : Gap g) (rest : List Char) :
    lib.option lib.string (g ++ (s ++ rest)) = .ok (o, rest) := by
  cases o with
  | none =>
    cases tells
    exact lawful.null gap
  | some value =>
    have read := lawful.string_of_tells tells gap_nil rest
    cases tells with
    | string spells =>
      rw [quoted, List.cons_append, List.cons_append, lawful.given gap (by decide) (by decide)]
      exact congrArg (Except.map _) read

end Library.Lawful
end Json

/-- A field of a draft holds nothing, or the value that it is to have. -/
def HoldsField {α : Type} (field : Option α) (a : α) : Prop := field = none ∨ field = some a

theorem HoldsField.eq_some {α : Type} {field : Option α} {a : α} (holds : HoldsField field a)
    (filled : field.isSome = true) : field = some a := by
  obtain rfl | rfl := holds
  · cases filled
  · rfl

theorem HoldsField.join {α : Type} {field : Option (Option α)} {a : Option α}
    (holds : HoldsField field a) (filled : field.isSome = true ∨ a = none) : field.join = a := by
  obtain rfl | rfl := holds
  · exact (filled.resolve_left Bool.false_ne_true).symm
  · rfl

namespace Endpoint

open Json

variable {lib : Library} {e : Endpoint} {g s rest : List Char}

/-- A draft holds nothing else than an endpoint. -/
structure Holds (e : Endpoint) (d : Draft) : Prop where
  port : HoldsField d.port e.port
  host : HoldsField d.host e.host

theorem finish_of_holds {d : Draft} (holds : Holds e d)
    (filled : ∀ m ∈ members lib, m.filled d = true ∨ (m.name, .null) ∈ e.toJson.members) :
    d.finish = some e := by
  obtain ⟨port, host⟩ : d.port.isSome = true ∧ d.host.isSome = true := by
    simpa [members, toJson, Json.members, int] using filled
  simp [Draft.finish, holds.port.eq_some port, holds.host.eq_some host]

variable (lawful : lib.Lawful)

include lawful

theorem lawful_members : Json.Lawful (members lib) := by
  refine ⟨by simp [members], ?_, ?_⟩
  · simp only [members, List.forall_mem_cons]
    exact ⟨lawful.confined_word16.into _, lawful.confined_string.into _, nofun⟩
  · simp only [members, List.forall_mem_cons]
    refine ⟨?_, ?_, nofun⟩ <;>
      · intro d s d' r h
        obtain ⟨v, rfl, -⟩ := exists_of_into h
        simp

theorem reads (e : Endpoint) : Reads (members lib) e.toJson.members (Holds e) := by
  constructor
  · simp [members, toJson, Json.members]
  · simp only [members, List.forall_mem_cons]
    refine ⟨?_, ?_, nofun⟩
    · exact exists_into (by simp [toJson, Json.members])
        (fun gap tells apart => lawful.word16_of_tells tells gap apart)
        (fun _ holds => { holds with port := .inr rfl })
    · exact exists_into (by simp [toJson, Json.members])
        (fun gap tells _ => lawful.string_of_tells tells gap _)
        (fun _ holds => { holds with host := .inr rfl })

theorem reader_of_tells (tells : Tells e.toJson s) (gap : Gap g) (rest : List Char) :
    reader lib (g ++ (s ++ rest)) = .ok (e, rest) :=
  lawful.record_of_tells (lawful_members lawful) (reads lawful e) ⟨.inl rfl, .inl rfl⟩
    (by simp [members]) (fun _ => finish_of_holds) tells gap rest

theorem option_of_tells {o : Option Endpoint}
    (tells : Tells (Settings.optionalJson toJson o) s) (gap : Gap g) (rest : List Char) :
    lib.option (reader lib) (g ++ (s ++ rest)) = .ok (o, rest) := by
  cases o with
  | none =>
    cases tells
    exact lawful.null gap
  | some e =>
    have read := reader_of_tells lawful tells gap_nil rest
    cases tells with
    | object object =>
      obtain ⟨t, rfl, -⟩ := exists_continues object.hasSlots.enclosed
      rw [List.cons_append, lawful.given gap (by decide) (by decide)]
      exact congrArg (Except.map _) read

theorem confined_reader : Confined (reader lib) := lawful.confined_record (lawful_members lawful)

/-- The names of the members of an endpoint, none of which can be left out. -/
def memberNames : List String := ["port", "host"]

theorem reader_ne_ok_of_broken {slots : List Slot} {r : List Char} (object : HasSlots slots s)
    (broken : Broken memberNames memberNames slots) (gap : Gap g) :
    reader lib (g ++ (s ++ rest)) ≠ .ok (e, r) := by
  apply lawful.record_ne_ok_of_broken (lawful_members lawful) (by simp [members]) _ _ object broken
    gap
  · simp [memberNames, members]
  · intro d a made
    simp only [Draft.finish, bind, Option.bind_eq_some_iff] at made
    obtain ⟨_, port, _, host, -⟩ := made
    simp [memberNames, members, port, host]

end Endpoint

namespace Settings

open Json

def memberNames : List String :=
  ["namespace", "node_name", "concurrency", "requeue_delay_secs", "error_requeue_secs",
    "warmup_enabled", "metrics", "health", "log_dir", "log_level", "log_json"]

def requiredNames : List String :=
  ["concurrency", "requeue_delay_secs", "error_requeue_secs", "warmup_enabled", "health",
    "log_json"]

variable {lib : Library} {c : Settings} {g s rest : List Char}

/-- A draft holds nothing else than some settings. -/
structure Holds (c : Settings) (d : Draft) : Prop where
  ns : HoldsField d.ns c.ns
  node : HoldsField d.node c.node
  concurrency : HoldsField d.concurrency c.concurrency
  requeueSeconds : HoldsField d.requeueSeconds c.requeueSeconds
  errorRequeueSeconds : HoldsField d.errorRequeueSeconds c.errorRequeueSeconds
  warmup : HoldsField d.warmup c.warmup
  metrics : HoldsField d.metrics c.metrics
  health : HoldsField d.health c.health
  logDir : HoldsField d.logDir c.logDir
  logLevel : HoldsField d.logLevel c.logLevel
  logJson : HoldsField d.logJson c.logJson

theorem optionalJson_eq_null_iff {α : Type} {toJson : α → Json} (some : ∀ a, toJson a ≠ .null)
    {o : Option α} : optionalJson toJson o = .null ↔ o = none := by
  cases o <;> simp [optionalJson, some]

theorem finish_of_holds {d : Draft} (holds : Holds c d)
    (filled : ∀ m ∈ members lib, m.filled d = true ∨ (m.name, .null) ∈ c.toJson.members) :
    d.finish = some c := by
  have strings {o : Option String} : .null = optionalJson .string o ↔ o = none := by
    rw [eq_comm, optionalJson_eq_null_iff nofun]
  have endpoints {o : Option Endpoint} : .null = optionalJson Endpoint.toJson o ↔ o = none := by
    rw [eq_comm, optionalJson_eq_null_iff nofun]
  obtain ⟨ns, node, concurrency, requeue, error, warmup, metrics, health, logDir, logLevel,
      logJson⟩ :
      (d.ns.isSome = true ∨ c.ns = none) ∧ (d.node.isSome = true ∨ c.node = none) ∧
      d.concurrency.isSome = true ∧ d.requeueSeconds.isSome = true ∧
      d.errorRequeueSeconds.isSome = true ∧ d.warmup.isSome = true ∧
      (d.metrics.isSome = true ∨ c.metrics = none) ∧ d.health.isSome = true ∧
      (d.logDir.isSome = true ∨ c.logDir = none) ∧ (d.logLevel.isSome = true ∨ c.logLevel = none) ∧
      d.logJson.isSome = true := by
    simpa [members, toJson, Json.members, int, strings, endpoints, Endpoint.toJson] using filled
  simp [Draft.finish, holds.ns.join ns, holds.node.join node, holds.metrics.join metrics,
    holds.logDir.join logDir, holds.logLevel.join logLevel, holds.concurrency.eq_some concurrency,
    holds.requeueSeconds.eq_some requeue, holds.errorRequeueSeconds.eq_some error,
    holds.warmup.eq_some warmup, holds.health.eq_some health, holds.logJson.eq_some logJson]

theorem writable_optionalJson {α : Type} {toJson : α → Json} (writable : ∀ a, Writable (toJson a))
    (o : Option α) : Writable (optionalJson toJson o) := by
  cases o with
  | none => exact .null
  | some a => exact writable a

theorem writable_endpoint (e : Endpoint) : Writable e.toJson := by
  apply Writable.object
  · simp
  · simp only [List.forall_mem_cons]
    exact ⟨.nat _, .string _, nofun⟩

theorem writable_toJson (c : Settings) : Writable c.toJson := by
  apply Writable.object
  · simp
  · have text := writable_optionalJson Writable.string
    simp only [List.forall_mem_cons]
    exact ⟨text _, text _, .nat _, .nat _, .nat _, .bool _,
      writable_optionalJson writable_endpoint _, writable_endpoint _, text _, text _, .bool _,
      nofun⟩

section

variable (lawful : lib.Lawful)

include lawful

theorem lawful_members : Json.Lawful (members lib) := by
  refine ⟨by simp [members], ?_, ?_⟩
  · have text := lawful.confined_option lawful.confined_string
    have endpoint := Endpoint.confined_reader lawful
    simp only [members, List.forall_mem_cons]
    exact ⟨text.into _, text.into _, lawful.confined_word16.into _, lawful.confined_word64.into _,
      lawful.confined_word64.into _, lawful.confined_bool.into _,
      (lawful.confined_option endpoint).into _, endpoint.into _, text.into _, text.into _,
      lawful.confined_bool.into _, nofun⟩
  · simp only [members, List.forall_mem_cons]
    refine ⟨?_, ?_, ?_, ?_, ?_, ?_, ?_, ?_, ?_, ?_, ?_, nofun⟩ <;>
      · intro d s d' r h
        obtain ⟨v, rfl, -⟩ := exists_of_into h
        simp

theorem reads (c : Settings) : Reads (members lib) c.toJson.members (Holds c) := by
  constructor
  · simp [members, toJson, Json.members]
  · simp only [members, List.forall_mem_cons]
    refine ⟨?_, ?_, ?_, ?_, ?_, ?_, ?_, ?_, ?_, ?_, ?_, nofun⟩
    · exact exists_into (by simp [toJson, Json.members])
        (fun gap tells _ => lawful.option_of_tells_string tells gap _)
        (fun _ holds => { holds with ns := .inr rfl })
    · exact exists_into (by simp [toJson, Json.members])
        (fun gap tells _ => lawful.option_of_tells_string tells gap _)
        (fun _ holds => { holds with node := .inr rfl })
    · exact exists_into (by simp [toJson, Json.members])
        (fun gap tells apart => lawful.word16_of_tells tells gap apart)
        (fun _ holds => { holds with concurrency := .inr rfl })
    · exact exists_into (by simp [toJson, Json.members])
        (fun gap tells apart => lawful.word64_of_tells tells gap apart)
        (fun _ holds => { holds with requeueSeconds := .inr rfl })
    · exact exists_into (by simp [toJson, Json.members])
        (fun gap tells apart => lawful.word64_of_tells tells gap apart)
        (fun _ holds => { holds with errorRequeueSeconds := .inr rfl })
    · exact exists_into (by simp [toJson, Json.members])
        (fun gap tells _ => lawful.bool tells gap)
        (fun _ holds => { holds with warmup := .inr rfl })
    · exact exists_into (by simp [toJson, Json.members])
        (fun gap tells _ => Endpoint.option_of_tells lawful tells gap _)
        (fun _ holds => { holds with metrics := .inr rfl })
    · exact exists_into (by simp [toJson, Json.members])
        (fun gap tells _ => Endpoint.reader_of_tells lawful tells gap _)
        (fun _ holds => { holds with health := .inr rfl })
    · exact exists_into (by simp [toJson, Json.members])
        (fun gap tells _ => lawful.option_of_tells_string tells gap _)
        (fun _ holds => { holds with logDir := .inr rfl })
    · exact exists_into (by simp [toJson, Json.members])
        (fun gap tells _ => lawful.option_of_tells_string tells gap _)
        (fun _ holds => { holds with logLevel := .inr rfl })
    · exact exists_into (by simp [toJson, Json.members])
        (fun gap tells _ => lawful.bool tells gap)
        (fun _ holds => { holds with logJson := .inr rfl })

theorem reader_of_tells (tells : Tells c.toJson s) (gap : Gap g) (rest : List Char) :
    reader lib (g ++ (s ++ rest)) = .ok (c, rest) := by
  have blank : Holds c {} :=
    ⟨.inl rfl, .inl rfl, .inl rfl, .inl rfl, .inl rfl, .inl rfl, .inl rfl, .inl rfl, .inl rfl,
      .inl rfl, .inl rfl⟩
  exact lawful.record_of_tells (lawful_members lawful) (reads lawful c) blank (by simp [members])
    (fun _ => finish_of_holds) tells gap rest

theorem reader_ne_ok_of_broken {slots : List Slot} {r : List Char} (object : HasSlots slots s)
    (broken : Broken requiredNames memberNames slots) (gap : Gap g) :
    reader lib (g ++ (s ++ rest)) ≠ .ok (c, r) := by
  apply lawful.record_ne_ok_of_broken (lawful_members lawful) (by simp [members]) _ _ object broken
    gap
  · simp [memberNames, members]
  · intro d a made
    simp only [Draft.finish, bind, Option.bind_eq_some_iff] at made
    obtain ⟨_, concurrency, _, requeue, _, error, _, warmup, _, health, _, logJson, -⟩ := made
    simp [requiredNames, members, concurrency, requeue, error, warmup, health, logJson]

theorem reader_ne_ok_of_broken_endpoint {slots inner : List Slot} {e : Entry} {r : List Char}
    (object : HasSlots slots s) (there : e.toSlot ∈ slots)
    (name : e.name = "metrics" ∨ e.name = "health") (endpoint : HasSlots inner e.value.text)
    (broken : Broken Endpoint.memberNames Endpoint.memberNames inner) (gap : Gap g) :
    reader lib (g ++ (s ++ rest)) ≠ .ok (c, r) := by
  intro h
  have obeyed := lawful_members lawful
  obtain ⟨-, es, d, rfl, takes, -⟩ := (lawful.record obeyed object gap).1 h
  obtain ⟨e', inside, same⟩ := List.mem_map.1 there
  obtain rfl := Entry.eq_of_toSlot_eq same
  obtain metrics | health := name
  · have member : ⟨e'.name, (·.metrics.isSome), into (lib.option (Endpoint.reader lib))
        fun d v => { d with metrics := some v }⟩ ∈ members lib := by
      simp [members, metrics]
    obtain ⟨o, behind, given⟩ := takes.exists_read_into obeyed inside member
    obtain ⟨t, text, -⟩ := exists_continues endpoint.enclosed
    rw [text, List.cons_append, lawful.given e'.value.gap_before (by decide) (by decide)] at given
    obtain ⟨⟨a, r⟩, given, -⟩ := map_eq_ok_iff.1 given
    rw [← List.cons_append, ← text] at given
    exact Endpoint.reader_ne_ok_of_broken lawful endpoint broken gap_nil given
  · have member : ⟨e'.name, (·.health.isSome), into (Endpoint.reader lib)
        fun d v => { d with health := some v }⟩ ∈ members lib := by
      simp [members, health]
    obtain ⟨a, behind, given⟩ := takes.exists_read_into obeyed inside member
    exact Endpoint.reader_ne_ok_of_broken lawful endpoint broken e'.value.gap_before given

theorem ofDocument_of_tells {before t after : List Char} (gap : Gap before) (gap' : Gap after)
    (tells : Tells c.toJson t) :
    ofDocument lib (String.ofList (before ++ t ++ after)) = .ok c := by
  rw [ofDocument, String.toList_ofList, List.append_assoc]
  exact lawful.whole.2 ⟨after, reader_of_tells lawful tells gap after, gap'⟩

end

/-- Settings survive their text, and every text that tells them: the members in any order and with
others among them, at both levels, the empty ones null or left out, and strings spelled in any way.
An object that lacks a member that cannot be left out, or has a known one twice, at either level, is
refused, and so is one with a member whose name does not consist of whole characters. -/
theorem documents_survive (lawful : lib.Lawful) (c : Settings) :
    ofDocument lib (c.document lib) = .ok c ∧
      (∀ before t after, Gap before → Gap after → Tells c.toJson t →
        ofDocument lib (String.ofList (before ++ t ++ after)) = .ok c) ∧
      ∀ before slots t after, Gap before → HasSlots slots t →
        (Broken requiredNames memberNames slots ∨
          ∃ e : Entry, e.toSlot ∈ slots ∧ (e.name = "metrics" ∨ e.name = "health") ∧
            ∃ inner, HasSlots inner e.value.text ∧
              Broken Endpoint.memberNames Endpoint.memberNames inner) →
        ∃ fault, ofDocument lib (String.ofList (before ++ t ++ after)) = .error fault := by
  refine ⟨?_, fun before t after gap gap' tells => ofDocument_of_tells lawful gap gap' tells, ?_⟩
  · have whole := ofDocument_of_tells lawful gap_nil gap_nil (lawful.text (writable_toJson c))
    rwa [List.nil_append, List.append_nil, String.ofList_toList] at whole
  · intro before slots t after gap object broken
    cases told : ofDocument lib (String.ofList (before ++ t ++ after)) with
    | error fault => exact ⟨fault, rfl⟩
    | ok a =>
      rw [ofDocument, String.toList_ofList, List.append_assoc] at told
      obtain ⟨r, given, -⟩ := lawful.whole.1 told
      obtain broken | ⟨e, there, name, inner, endpoint, broken⟩ := broken
      · exact absurd given (reader_ne_ok_of_broken lawful object broken gap)
      · exact absurd given
          (reader_ne_ok_of_broken_endpoint lawful object there name endpoint broken gap)

theorem defaults_survive_scanning : ofDocument .scanning (document .scanning {}) = .ok {} :=
  (documents_survive Library.lawful_scanning {}).1

namespace Unpaired

/-- A member that no settings have. Its name is half of a surrogate pair. -/
def slot : Slot where
  before := []
  body := ['\\', 'u', 'd', '8', '0', '0']
  between := []
  value := ⟨[], ['n', 'u', 'l', 'l'], [], gap_nil, gap_nil⟩
  gap_before := gap_nil
  gap_between := gap_nil

theorem isBody_slot : IsBody slot.body :=
  IsBody.code (h := ['d', '8', '0', '0']) (n := 0xd800) (by decide) .nil

theorem not_spells_slot (cs : List Char) : ¬ Spells cs slot.body := by
  intro spells
  have half : scanEscape ['u', 'd', '8', '0', '0', '"'] = .error .malformed := by decide
  have scanned := scanString_append spells []
  change scanString ('\\' :: ['u', 'd', '8', '0', '0', '"']) = _ at scanned
  rw [scanString] at scanned
  split at scanned
  · cases scanned
  · rename_i found
    cases found.symm.trans half

def others : List Slot := (({} : Settings).toJson.members.map entryOf).map Entry.toSlot

def text : List Char := '\x7b' :: (slot.chars ++ closing '\x7d' (others.map Slot.chars) [])

theorem hasSlots_others : HasSlots others ({} : Settings).toJson.chars := by
  refine (isObject_entryOf fun m member => ?_).hasSlots
  cases writable_toJson {} with
  | object _ members => exact (members m member).written

theorem hasSlots_text : HasSlots (slot :: others) text where
  enclosed := enclosed_closing _ _ _ _
  bodies := List.forall_mem_cons.2 ⟨isBody_slot, hasSlots_others.bodies⟩
  values := List.forall_mem_cons.2 ⟨.null, hasSlots_others.values⟩

/-- An object that tells the default settings is refused once it has this member besides. -/
theorem refused_with_unpaired_name :
    HasSlots others (document .scanning {}).toList ∧
      Tells ({} : Settings).toJson (document .scanning {}).toList ∧
      HasSlots (slot :: others) text ∧
      ∃ fault, ofDocument .scanning (String.ofList text) = .error fault := by
  have lawful := Library.lawful_scanning
  have refused := (documents_survive lawful {}).2.2 [] (slot :: others) text [] gap_nil
    hasSlots_text (.inl (.unnamed List.mem_cons_self not_spells_slot))
  have written : (document .scanning {}).toList = ({} : Settings).toJson.chars :=
    String.toList_ofList
  refine ⟨written ▸ hasSlots_others, lawful.text (writable_toJson {}), hasSlots_text, ?_⟩
  rwa [List.nil_append, List.append_nil] at refused

end Unpaired
end Settings
end WarmupGate
