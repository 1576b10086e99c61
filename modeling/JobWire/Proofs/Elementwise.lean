import JobWire.Proofs.Job.Grammar
import JobWire.Proofs.Reply
import JobWire.Proofs.Settling

/-!
# Lists are decoded element by element

A list is decoded all or nothing.  Either every element has a value, and the list has these values
in the order of its elements; or there is a first element without one, and the list is refused for
what that element is refused for, whatever comes after it.  So a list that is put together from two
is decoded as one after the other.

A list of jids is looked through twice.  That an element is no string is a fault of the first pass,
and that a jid is blank is one of the second; the latter is never reported if there is one of the
former.

**Results.**
* `Traced.result_each_eq_iff`: what is made of the elements of a list.
* `Json.result_list_append_eq_iff`: two lists that are put together.
* `Json.result_strings_arr_eq_error_iff`: how a list of strings is refused.
* `Reply.result_jidsOfJson_eq_iff`: the two passes over a list of jids.
* `lists_all_or_nothing`: every list of the program, in these terms.
-/

namespace JobWire

/-- What is made of the elements of a list one after the other: their values, or the error of the
first of them that has none. -/
inductive Elementwise {ε α β : Type} (f : α → Except ε β) (as : List α) : Except ε (List β) → Prop
  | values {bs : List β} :
      List.Forall₂ (fun a b => f a = .ok b) as bs →
      Elementwise f as (.ok bs)
  | refused {a : α} {e : ε} :
      IsFirst (fun a => ∀ b, f a ≠ .ok b) as a →
      f a = .error e →
      Elementwise f as (.error e)

namespace Traced

variable {ε α β : Type} {f : α → Traced ε β} {as : List α}

/-- The runs of a list fail as the first of them does that yields no value. -/
theorem result_each_eq_error_iff {e : ε} :
    (each f as).result = .error e ↔
      ∃ a, IsFirst (fun a => ∀ b, (f a).result ≠ .ok b) as a ∧ (f a).result = .error e := by
  have hfails : ∀ a, errorOf? (f a).result ≠ none ↔ ∀ b, (f a).result ≠ .ok b := by
    intro a
    rw [Ne, errorOf?_eq_none_iff, not_exists]
  rw [← errorOf?_eq_some_iff, errorOf?_each, findSome?_eq_some_iff_isFirst]
  simp only [hfails, errorOf?_eq_some_iff]

/-- The runs of a list yield what is made of its elements one after the other. -/
theorem result_each_eq_iff {r : Except ε (List β)} :
    (each f as).result = r ↔ Elementwise (fun a => (f a).result) as r := by
  cases r with
  | ok bs =>
      rw [result_each_eq_ok_iff]
      constructor
      · exact .values
      · rintro ⟨hvalues⟩
        exact hvalues
  | error e =>
      rw [result_each_eq_error_iff]
      constructor
      · rintro ⟨a, hfirst, herror⟩
        exact .refused hfirst herror
      · rintro (_ | ⟨hfirst, herror⟩)
        exact ⟨_, hfirst, herror⟩

theorem result_each_append {bs : List α} :
    (each f (as ++ bs)).result =
      (each f as).result >>= fun xs => (each f bs).result >>= fun ys => pure (xs ++ ys) := by
  simp only [each_append, result_bind]
  rfl

end Traced

namespace Json

section Lists

variable {α : Type} {name : String} {item : Json → Decode α} {items : List Json}
  {r : Decoded (List α)}

theorem result_list_arr_eq_iff :
    ((arr items).list name item).result = r ↔ Elementwise (fun w => (item w).result) items r := by
  rw [list_arr, Traced.result_each_eq_iff]

/-- What is made of two lists that are put together is what is made of the first, and then of the
second. -/
theorem result_list_append_eq_iff {xs ys : List Json} :
    ((arr (xs ++ ys)).list name item).result = r ↔
      InOrder (fun x => ((arr xs).list name item).result = x)
        (fun y => ((arr ys).list name item).result = y) (fun as bs => as ++ bs) r := by
  rw [list_arr, list_arr, list_arr, Traced.result_each_append]
  exact inOrder_iff (fun _ => Iff.rfl) fun _ => Iff.rfl

end Lists

section Strings

variable {name : String} {items : List Json} {texts : List String} {v w : Json}
  {e : DecodeError}

theorem result_stringElement_ne_ok_iff :
    (∀ s, (stringElement name w).result ≠ .ok s) ↔ w.kind ≠ .string := by
  cases w <;> simp [stringElement, kind, Traced.ok, Traced.fail]

theorem result_stringElement_eq_error_iff (h : w.kind ≠ .string) :
    (stringElement name w).result = .error e ↔
      w = .null ∧ e = nullElement name ∨
        w ≠ .null ∧ e = w.wrongShape name "an array of strings" := by
  cases w <;> simp_all [stringElement, kind, Traced.fail, eq_comm]

theorem result_strings_arr_eq_ok_iff :
    ((arr items).list name (stringElement name)).result = .ok texts ↔
      items = texts.map .str := by
  simp [result_strings_eq_ok_iff, ofStrings]

/-- A list of strings is refused for its first element that is none. -/
theorem result_strings_arr_eq_error_iff :
    ((arr items).list name (stringElement name)).result = .error e ↔
      (IsFirst (fun w => w.kind ≠ .string) items .null ∧ e = nullElement name) ∨
        ∃ w, IsFirst (fun w => w.kind ≠ .string) items w ∧ w ≠ .null ∧
          e = w.wrongShape name "an array of strings" := by
  rw [list_arr, Traced.result_each_eq_error_iff]
  simp only [result_stringElement_ne_ok_iff]
  constructor
  · rintro ⟨w, hfirst, herror⟩
    rcases (result_stringElement_eq_error_iff hfirst.prop).mp herror with
      ⟨rfl, he⟩ | ⟨hnull, he⟩
    · exact .inl ⟨hfirst, he⟩
    · exact .inr ⟨w, hfirst, hnull, he⟩
  · rintro (⟨hfirst, he⟩ | ⟨w, hfirst, hnull, he⟩)
    · exact ⟨_, hfirst, (result_stringElement_eq_error_iff hfirst.prop).mpr (.inl ⟨rfl, he⟩)⟩
    · exact ⟨w, hfirst, (result_stringElement_eq_error_iff hfirst.prop).mpr (.inr ⟨hnull, he⟩)⟩

end Strings

end Json

/-- The lists that are decoded in a single pass. -/
inductive PlainList where
  | jobs (name : String)
  | queueCounts
  | workerCounts
  | history
  | strings (name : String)
deriving DecidableEq

namespace PlainList

/-- What an element of a list is decoded into. -/
def Item : PlainList → Type
  | jobs _ => Job
  | queueCounts => QueueCounts
  | workerCounts => WorkerCounts
  | history => Event
  | strings _ => String

/-- What errors call a list. -/
def name : PlainList → String
  | jobs name => name
  | queueCounts => "counts"
  | workerCounts => "counts"
  | history => "history"
  | strings name => name

/-- The decoder of an element of a list. -/
def item : (k : PlainList) → Json → Decode k.Item
  | jobs _ => Job.ofJson
  | queueCounts => QueueCounts.ofJson
  | workerCounts => WorkerCounts.ofJson
  | history => Event.ofJson
  | strings name => Json.stringElement name

/-- The decoder of a list. -/
def read : (k : PlainList) → Json → Decode (List k.Item)
  | jobs name => Job.listOfJson name
  | queueCounts => QueueCounts.listOfJson
  | workerCounts => WorkerCounts.listOfJson
  | history => fun v => v.list "history" Event.ofJson
  | strings name => fun v => v.list name (Json.stringElement name)

variable {k : PlainList}

theorem read_eq (v : Json) : k.read v = v.list k.name k.item := by
  cases k <;> rfl

/-- An array is decoded element by element, whatever it is a list of. -/
theorem result_read_arr_eq_iff {items : List Json} {r : Decoded (List k.Item)} :
    (k.read (.arr items)).result = r ↔ Elementwise (fun w => (k.item w).result) items r := by
  rw [read_eq, Json.result_list_arr_eq_iff]

end PlainList

namespace Job

variable {o : Object} {j : Job} {items : List Json}

/-- A job has an event for each element of its history, and a string for each element of its other
lists. -/
theorem hasLists_of_ofJson (h : (ofJson (.obj o)).result = .ok j) :
    o.HasList "history" Event.ofJson j.history ∧
      ∀ list ∈ [("dependencies", j.dependencies), ("dependents", j.dependents), ("tags", j.tags),
          ("throttles", j.throttles)],
        o.HasList list.1 (Json.stringElement list.1) list.2 := by
  obtain ⟨_, ⟨⟩, hread, -⟩ := result_ofJson_eq_ok_iff.mp h
  refine ⟨hread.history, ?_⟩
  simp only [List.forall_mem_cons]
  exact ⟨hread.dependencies.hasList_strings, hread.dependents.hasList_strings,
    hread.tags.hasList_strings, hread.throttles.hasList_strings, by simp⟩

/-- A job whose history is the first property that cannot be read is refused for the first event
that cannot be. -/
theorem result_ofJson_eq_error_iff_of_history (hfits : shape.Fits o)
    (hfirst : IsFirst (fun r => r.fault? o ≠ none) readers historyReader)
    (hget : o.get? "history" = some (.arr items)) (e : DecodeError) :
    (ofJson (.obj o)).result = .error e ↔
      Elementwise (fun w => (Event.ofJson w).result) items (.error e) := by
  have hfault : historyReader.fault? o =
      errorOf? ((Json.arr items).list "history" Event.ofJson).result := by
    rw [← of_history, Reader.fault?, Reader.of, hget, Option.bind_some]
  obtain ⟨fault, hsome⟩ := Option.ne_none_iff_exists'.mp hfirst.prop
  have hjob : (ofJson (.obj o)).result = .error fault :=
    governs.result_eq_iff.mpr (.misread hfits hfirst hsome)
  have hlist : ((Json.arr items).list "history" Event.ofJson).result = .error fault := by
    rw [← errorOf?_eq_some_iff, ← hfault, hsome]
  have hitems : ((Json.arr items).list "history" Event.ofJson).result = .error e ↔
      Elementwise (fun w => (Event.ofJson w).result) items (.error e) :=
    Json.result_list_arr_eq_iff
  rw [hjob, ← hitems, hlist, Except.error.injEq, Except.error.injEq]

end Job

namespace Reply

/-- What is reported of an array that is to hold jids. -/
inductive JidsVerdict (items : List Json) : Decoded (List String) → Prop
  | null :
      IsFirst (fun w => w.kind ≠ .string) items .null →
      JidsVerdict items (.error (Json.nullElement "jids"))
  | notString {w : Json} :
      IsFirst (fun w => w.kind ≠ .string) items w →
      w ≠ .null →
      JidsVerdict items (.error (w.wrongShape "jids" "an array of strings"))
  | blank {texts : List String} {text : String} :
      items = texts.map .str →
      text ∈ texts →
      Text.isBlank text = true →
      JidsVerdict items (.error blankJid)
  | jids {texts : List String} :
      items = texts.map .str →
      (∀ text ∈ texts, Text.isBlank text = false) →
      JidsVerdict items (.ok texts)

section Jids

variable {v : Json} {items : List Json} {texts : List String} {r : Reply}

/-- The second pass over a list of jids. -/
theorem result_jidsOfJson :
    (jidsOfJson v).result =
      (v.list "jids" (Json.stringElement "jids")).result >>= fun jids =>
        if jids.any Text.isBlank then .error blankJid else .ok jids := by
  rw [jidsOfJson, Traced.result_bind]
  refine congrArg _ (funext fun jids => ?_)
  split_ifs <;> rfl

/-- The jids of a list are its strings, if none of them is blank. -/
theorem result_jidsOfJson_eq_ok_iff :
    (jidsOfJson v).result = .ok texts ↔
      (v.list "jids" (Json.stringElement "jids")).result = .ok texts ∧
        ∀ text ∈ texts, Text.isBlank text = false := by
  have hnone : (∀ text ∈ texts, Text.isBlank text = false) ↔ ¬ texts.any Text.isBlank = true := by
    simp
  rw [result_jidsOfJson, bind_eq_ok_iff, hnone]
  constructor
  · rintro ⟨jids, hjids, hpass⟩
    split_ifs at hpass with hblank
    cases hpass
    exact ⟨hjids, hblank⟩
  · rintro ⟨hjids, hblank⟩
    exact ⟨texts, hjids, if_neg hblank⟩

theorem result_jidsOfJson_eq_error_iff {e : DecodeError} :
    (jidsOfJson v).result = .error e ↔
      (v.list "jids" (Json.stringElement "jids")).result = .error e ∨
        ∃ texts, (v.list "jids" (Json.stringElement "jids")).result = .ok texts ∧
          (∃ text ∈ texts, Text.isBlank text = true) ∧ e = blankJid := by
  rw [result_jidsOfJson, bind_eq_error_iff]
  refine or_congr_right (exists_congr fun jids => and_congr_right fun _ => ?_)
  rw [← List.any_eq_true]
  split_ifs with hblank <;> simp [hblank, eq_comm]

/-- What is reported of an array is what the first pass reports, or else the second. -/
theorem result_jidsOfJson_eq_iff {x : Decoded (List String)} :
    (jidsOfJson (.arr items)).result = x ↔ JidsVerdict items x := by
  cases x with
  | error e =>
      rw [result_jidsOfJson_eq_error_iff, Json.result_strings_arr_eq_error_iff]
      simp only [Json.result_strings_arr_eq_ok_iff]
      constructor
      · rintro ((⟨hnull, rfl⟩ | ⟨w, hw, hnull, rfl⟩) | ⟨texts, htexts, ⟨text, hmem, hblank⟩, rfl⟩)
        · exact .null hnull
        · exact .notString hw hnull
        · exact .blank htexts hmem hblank
      · rintro (hnull | ⟨hw, hnull⟩ | ⟨htexts, hmem, hblank⟩)
        · exact .inl (.inl ⟨hnull, rfl⟩)
        · exact .inl (.inr ⟨_, hw, hnull, rfl⟩)
        · exact .inr ⟨_, htexts, ⟨_, hmem, hblank⟩, rfl⟩
  | ok texts =>
      rw [result_jidsOfJson_eq_ok_iff, Json.result_strings_arr_eq_ok_iff]
      constructor
      · rintro ⟨htexts, hblank⟩
        exact .jids htexts hblank
      · rintro (_ | _ | _ | ⟨htexts, hblank⟩)
        exact ⟨htexts, hblank⟩

/-- A reply yields jids exactly if its document is a list of strings, none of them blank, and these
are the jids. -/
theorem result_jids_eq_ok_iff :
    (jids r).result = .ok texts ↔
      (∃ v, r.json.result = .ok v ∧ (v = .ofStrings texts ∨ v = .obj [] ∧ texts = [])) ∧
        ∀ text ∈ texts, Text.isBlank text = false := by
  rw [jids, result_record, bind_eq_ok_iff]
  simp only [mapError_eq_ok_iff, result_jidsOfJson_eq_ok_iff,
    Json.result_strings_eq_ok_iff]
  constructor
  · rintro ⟨v, hjson, hlist, hblank⟩
    exact ⟨⟨v, hjson, hlist⟩, hblank⟩
  · rintro ⟨⟨v, hjson, hlist⟩, hblank⟩
    exact ⟨v, hjson, hlist, hblank⟩

end Jids

end Reply

open Reply (JidsVerdict)

/-- Lists are decoded all or nothing, and one part after the other: whatever the decoder of their
elements is, and in particular for each list of the program.  A job has a value for each element of
its lists, and is refused for the first bad event if its history is what cannot be read.  Of a list
of jids the first element that is no string is reported, wherever it stands, and if there is none, a
blank jid. -/
theorem lists_all_or_nothing :
    (∀ (α : Type) (name : String) (item : Json → Decode α) (xs ys : List Json)
      (r : Decoded (List α)),
      ((Json.arr (xs ++ ys)).list name item).result = r ↔
        InOrder (fun x => ((Json.arr xs).list name item).result = x)
          (fun y => ((Json.arr ys).list name item).result = y) (fun as bs => as ++ bs) r) ∧
      (∀ (k : PlainList) (items : List Json) (r : Decoded (List k.Item)),
        (k.read (.arr items)).result = r ↔ Elementwise (fun w => (k.item w).result) items r) ∧
      (∀ (o : Object) (j : Job), (Job.ofJson (.obj o)).result = .ok j →
        o.HasList "history" Event.ofJson j.history ∧
          ∀ list ∈ [("dependencies", j.dependencies), ("dependents", j.dependents),
              ("tags", j.tags), ("throttles", j.throttles)],
            o.HasList list.1 (Json.stringElement list.1) list.2) ∧
      (∀ (o : Object) (items : List Json), Job.shape.Fits o →
        IsFirst (fun r => r.fault? o ≠ none) Job.readers Job.historyReader →
        o.get? "history" = some (.arr items) → ∀ e,
          (Job.ofJson (.obj o)).result = .error e ↔
            Elementwise (fun w => (Event.ofJson w).result) items (.error e)) ∧
      (∀ (r : Reply) (items : List Json), r.json.result = .ok (.arr items) →
        ∀ x : Decoded (List String),
          (Reply.jids r).result = x.mapError ClientError.decode ↔ JidsVerdict items x) ∧
      ∀ (r : Reply) (texts : List String),
        (Reply.jids r).result = .ok texts ↔
          (∃ v, r.json.result = .ok v ∧ (v = .ofStrings texts ∨ v = .obj [] ∧ texts = [])) ∧
            ∀ text ∈ texts, Text.isBlank text = false := by
  refine ⟨fun _ _ _ _ _ _ => Json.result_list_append_eq_iff,
    fun _ _ _ => PlainList.result_read_arr_eq_iff, fun _ _ h => Job.hasLists_of_ofJson h,
    fun _ _ hfits hfirst hget => Job.result_ofJson_eq_error_iff_of_history hfits hfirst hget,
    fun r items h x => ?_, fun _ _ => Reply.result_jids_eq_ok_iff⟩
  rw [Reply.jids, Reply.result_record_eq_iff h, Reply.result_jidsOfJson_eq_iff]

/-- A job with the given history. -/
def Job.withHistory (history : List Json) : Object :=
  [("history", .arr history), ("jid", .str "jid-1"), ("klass", .str "SendEmail"),
    ("data", .str "7"), ("queue", .str "emails"), ("worker", .null), ("state", .str "waiting"),
    ("priority", .int 0), ("remaining", .int 1), ("retries", .int 1), ("expires", .int 0),
    ("tracked", .bool false), ("spawned_from_jid", .null), ("dependencies", .obj []),
    ("dependents", .arr []), ("tags", .arr [.str "urgent", .str "mail"]), ("throttles", .obj []),
    ("failure", .obj [])]

/-- An event, one that does not say when it happened, and what is no event at all. -/
def Job.brokenHistory : List Json :=
  [.obj [("what", .str "done"), ("when", .int 3)], .obj [("what", .str "done")], .null]

theorem lists_all_or_nothing_broken :
    Job.shape.Fits (Job.withHistory Job.brokenHistory) ∧
      (Job.ofJson (.obj (Job.withHistory Job.brokenHistory))).result =
        .error (.missing "when" none) ∧
      Elementwise (fun w => (Event.ofJson w).result) Job.brokenHistory
        (.error (.missing "when" none)) ∧
      (∃ j, (Job.ofJson (.obj (Job.withHistory (Job.brokenHistory.take 1)))).result = .ok j ∧
        (Job.withHistory (Job.brokenHistory.take 1)).HasList "history" Event.ofJson j.history) ∧
      (Reply.text "[\"a\",\" \",null]").json.result = .ok (.arr [.str "a", .str " ", .null]) ∧
      (Reply.jids (.text "[\"a\",\" \",null]")).result =
        .error (.decode (Json.nullElement "jids")) ∧
      JidsVerdict [.str "a", .str " ", .null] (.error (Json.nullElement "jids")) := by
  obtain ⟨-, -, hlists, hhistory, hjids, -⟩ := lists_all_or_nothing
  have hfits : Job.shape.Fits (Job.withHistory Job.brokenHistory) :=
    Shape.firstFault?_eq_none_iff.mp (by decide)
  have hfirst : IsFirst (fun r => r.fault? (Job.withHistory Job.brokenHistory) ≠ none) Job.readers
      Job.historyReader :=
    ⟨Job.readers.take 16, Job.readers.drop 17, rfl, by decide, by decide⟩
  have hjob : (Job.ofJson (.obj (Job.withHistory Job.brokenHistory))).result =
      .error (.missing "when" none) := by decide
  have hdecoded : (Job.ofJson (.obj (Job.withHistory (Job.brokenHistory.take 1)))).result = .ok {
      jid := "jid-1", className := "SendEmail", data := "7", queue := some "emails",
      worker := none, state := "waiting", priority := 0, remaining := 1, retries := 1,
      expires := none, tracked := false, spawnedFrom := none, dependencies := [],
      dependents := [], tags := ["urgent", "mail"], throttles := [], history := [.done 3],
      failure := none } := by decide
  have hjson : (Reply.text "[\"a\",\" \",null]").json.result =
      .ok (.arr [.str "a", .str " ", .null]) := by decide +kernel
  have hrefused : (Reply.jids (.text "[\"a\",\" \",null]")).result =
      .error (.decode (Json.nullElement "jids")) := by decide +kernel
  exact ⟨hfits, hjob, (hhistory _ _ hfits hfirst rfl _).mp hjob,
    ⟨_, hdecoded, (hlists _ _ hdecoded).1⟩, hjson, hrefused,
    (hjids _ _ hjson (.error (Json.nullElement "jids"))).mp hrefused⟩

end JobWire
