import JobWire.Proofs.Envelope

/-!
# Documents decoded, encoded and decoded again

A record is decoded from a document when the document is read as a value, and the record from that
value.  The value is readable, so if the type of records is stable, the record is written as a value
that is readable again: its text is read as that value, and the same record from it.

Documents are of seven kinds, and the records of each kind are stable.

**Results.**
* `result_decode_encoded_iff`: what is decoded from an encoded record, and when.
* `Wire.Stable.decode_encoded`: a record that was decoded is decoded from its own bytes.
* `DocumentKind.decode_encoded_of_decode`: the same for every kind of document, with the bytes of
  the record that is decoded then.
-/

namespace JobWire

/-- The document that a record is encoded to. -/
def encoded {α : Type} [Wire α] (a : α) : Document :=
  .bytes (encode a).toUTF8

section Documents

variable {α : Type} [Wire α] {d : Document} {a b : α} {v w : Json}

theorem fromUTF8?_toUTF8 (s : String) : String.fromUTF8? s.toUTF8 = some s :=
  dif_pos s.isValidUTF8

theorem result_ofExcept_elim_eq_ok_iff {o : Option Json} {e : DecodeError} :
    (Traced.ofExcept (o.elim (.error e) .ok)).result = .ok v ↔ o = some v := by
  cases o <;> simp [Traced.ofExcept]

/-- The value that a document holds is readable. -/
theorem readable_of_document (h : d.json.result = .ok v) : v.Readable 0 := by
  cases d with
  | text s =>
      exact Json.readable_of_parse (result_ofExcept_elim_eq_ok_iff.mp h)
  | bytes bs =>
      exact Json.readable_of_parseBytes (result_ofExcept_elim_eq_ok_iff.mp h)

theorem result_decode_eq_ok_iff :
    (decode α d).result = .ok a ↔
      ∃ v, d.json.result = .ok v ∧ (Wire.ofJson v : Decode α).result = .ok a :=
  Traced.result_bind_eq_ok_iff

theorem result_json_encoded_eq_ok_iff (h : (Wire.toJson a).Distinct) :
    (encoded a).json.result = .ok w ↔ Wire.toJson a = w ∧ (Wire.toJson a).Readable 0 := by
  have hbytes : Json.parseBytes (encode a).toUTF8 = Json.parse (Wire.toJson a).render := by
    rw [Json.parseBytes, fromUTF8?_toUTF8, Option.bind_some, encode]
  rw [encoded, Document.json, result_ofExcept_elim_eq_ok_iff, hbytes,
    Json.parse_render_eq_some_iff h]

/-- What is decoded from an encoded record is what is read of its value, if that is readable. -/
theorem result_decode_encoded_iff (h : (Wire.toJson a).Distinct) :
    (decode α (encoded a)).result = .ok b ↔
      (Wire.toJson a).Readable 0 ∧ (Wire.ofJson (Wire.toJson a) : Decode α).result = .ok b := by
  rw [result_decode_eq_ok_iff]
  simp only [result_json_encoded_eq_ok_iff h]
  constructor
  · rintro ⟨_, ⟨rfl, hreadable⟩, hread⟩
    exact ⟨hreadable, hread⟩
  · rintro ⟨hreadable, hread⟩
    exact ⟨_, ⟨rfl, hreadable⟩, hread⟩

theorem result_decode_encoded_self_iff (h : (Wire.toJson a).Distinct)
    (hback : (Wire.ofJson (Wire.toJson a) : Decode α).result = .ok a) :
    (decode α (encoded a)).result = .ok a ↔ (Wire.toJson a).Readable 0 := by
  rw [result_decode_encoded_iff h, and_iff_left hback]

/-- A record that was decoded is written as a readable value. -/
theorem Wire.Stable.readable_of_decode (hstable : Stable α) (h : (decode α d).result = .ok a) :
    (toJson a).Readable 0 := by
  obtain ⟨v, hv, hread⟩ := result_decode_eq_ok_iff.mp h
  exact hstable.readable (readable_of_document hv) hread

/-- A record that was decoded is read back from its own value. -/
theorem Wire.Stable.readBack_of_decode (hstable : Stable α) (h : (decode α d).result = .ok a) :
    (ofJson (toJson a) : Decode α).result = .ok a := by
  obtain ⟨v, hv, hread⟩ := result_decode_eq_ok_iff.mp h
  exact hstable.readBack (readable_of_document hv) hread

/-- A record that was decoded is decoded from its own bytes. -/
theorem Wire.Stable.decode_encoded (hstable : Stable α) (h : (decode α d).result = .ok a) :
    (decode α (encoded a)).result = .ok a := by
  have hreadable := hstable.readable_of_decode h
  have hback := hstable.readBack_of_decode h
  exact (result_decode_encoded_self_iff hreadable.distinct hback).mpr hreadable

end Documents

/-- The kinds of document. -/
inductive DocumentKind where
  | job | jobs | event | recurringJob | jidsResult | trackedJobs | workerJobs
deriving DecidableEq

namespace DocumentKind

/-- What a document of a kind is decoded into. -/
def Record : DocumentKind → Type
  | job => Job
  | jobs => List Job
  | event => Event
  | recurringJob => RecurringJob
  | jidsResult => JidsResult
  | trackedJobs => TrackedJobs
  | workerJobs => WorkerJobs

instance (kind : DocumentKind) : Wire kind.Record :=
  match kind with
  | job => inferInstanceAs (Wire Job)
  | jobs => inferInstanceAs (Wire (List Job))
  | event => inferInstanceAs (Wire Event)
  | recurringJob => inferInstanceAs (Wire RecurringJob)
  | jidsResult => inferInstanceAs (Wire JidsResult)
  | trackedJobs => inferInstanceAs (Wire TrackedJobs)
  | workerJobs => inferInstanceAs (Wire WorkerJobs)

/-- The records of every kind of document are stable. -/
theorem stable (kind : DocumentKind) : Wire.Stable kind.Record :=
  match kind with
  | job => Wire.stable_job
  | jobs => Wire.stable_jobs
  | event => Wire.stable_event
  | recurringJob => Wire.stable_recurringJob
  | jidsResult => Wire.stable_jidsResult
  | trackedJobs => Wire.stable_trackedJobs
  | workerJobs => Wire.stable_workerJobs

/-- A record that was decoded from a document is decoded from its own bytes, and encoded to the same
bytes again. -/
theorem decode_encoded_of_decode (kind : DocumentKind) (d : Document) (x : kind.Record)
    (h : (decode kind.Record d).result = .ok x) :
    ∃ y, (decode kind.Record (encoded x)).result = .ok y ∧ y = x ∧
      (encode y).toUTF8 = (encode x).toUTF8 :=
  ⟨x, kind.stable.decode_encoded h, rfl, rfl⟩

/-- An event of no known kind, with a value that is not a number inside. -/
def unknownEvent : event.Record :=
  Event.log "x" 1 [("a", "[NaN,1.5]")]

theorem decode_encoded_unknownEvent :
    (decode event.Record
      (.text "\x7b \"a\" : [NaN, 1.50], \"when\": 1, \"what\": \"x\"\x7d")).result =
        .ok unknownEvent ∧
      ∃ y, (decode event.Record (encoded unknownEvent)).result = .ok y ∧ y = unknownEvent ∧
        (encode y).toUTF8 = (encode unknownEvent).toUTF8 := by
  have hdecode : (decode Event
      (.text "\x7b \"a\" : [NaN, 1.50], \"when\": 1, \"what\": \"x\"\x7d")).result =
        .ok (Event.log "x" 1 [("a", "[NaN,1.5]")]) := by decide +kernel
  exact ⟨hdecode, decode_encoded_of_decode event _ unknownEvent hdecode⟩

end DocumentKind

end JobWire
