import JobWire.Proofs.Agreement

/-!
# Values that differ in their empty lists

An empty list may be written as the empty array or as the empty object.  Two values are *alike* when
they differ in nothing else: the relations below say at which places of a value this may happen, for
lists, for objects property by property, and for documents that are texts within a document.

What reads a value through a list does not tell apart what is alike.

**Results.**
* `Json.list_eq_of_alike`, `Object.Alike.envelopeList_eq`: the two ways in which lists are read.
* `Json.ObjectAlike.read_bind_eq`: objects that are alike have the same declared properties.
-/

namespace JobWire

namespace Json

/-- The values are the same, or one is the empty array and the other the empty object, or they are
arrays whose elements are alike. -/
inductive ListAlike (R : Json → Json → Prop) : Json → Json → Prop
  | same (v : Json) :
      ListAlike R v v
  | objectForArray :
      ListAlike R (arr []) (obj [])
  | arrayForObject :
      ListAlike R (obj []) (arr [])
  | elements {vs ws : List Json} :
      List.Forall₂ R vs ws →
      ListAlike R (arr vs) (arr ws)

/-- The values are the same at all names but the given ones, and alike at these. -/
def AlikeAt (names : List String) (R : Json → Json → Prop) (name : String) (v w : Json) : Prop :=
  if name ∈ names then R v w else v = w

end Json

/-- The objects have the same names in the same order, and their values are alike. -/
def Object.Alike (R : String → Json → Json → Prop) (o p : Object) : Prop :=
  List.Forall₂ (fun m n => m.1 = n.1 ∧ R m.1 m.2 n.2) o p

namespace Json

/-- The values are the same, or they are objects whose properties are alike. -/
inductive ObjectAlike (R : String → Json → Json → Prop) : Json → Json → Prop
  | same (v : Json) :
      ObjectAlike R v v
  | members {o p : Object} :
      o.Alike R p →
      ObjectAlike R (obj o) (obj p)

/-- The values are the same, or they are texts of documents that are alike. -/
inductive TextAlike (R : Json → Json → Prop) : Json → Json → Prop
  | same (v : Json) :
      TextAlike R v v
  | documents {s t : String} {v w : Json} :
      parse s = some v →
      parse t = some w →
      R v w →
      TextAlike R (str s) (str t)

end Json

section Alike

variable {α : Type} {R : Json → Json → Prop} {v w : Json} {name : String} {names : List String}
  {item : Json → Decode α}

theorem Traced.each_congr {ε β γ : Type} {S : β → β → Prop} {f : β → Traced ε γ} {as bs : List β}
    (h : List.Forall₂ S as bs) (hf : ∀ a b, S a b → f a = f b) : each f as = each f bs := by
  induction h with
  | nil =>
      rfl
  | cons hab _ ih =>
      rw [each, each, hf _ _ hab, ih]

namespace Json

theorem ListAlike.null_iff (h : ListAlike R v w) : v = null ↔ w = null := by
  cases h with
  | same =>
      exact Iff.rfl
  | objectForArray | arrayForObject | elements _ =>
      exact iff_of_false nofun nofun

theorem ObjectAlike.null_iff {R : String → Json → Json → Prop} (h : ObjectAlike R v w) :
    v = null ↔ w = null := by
  cases h with
  | same =>
      exact Iff.rfl
  | members _ =>
      exact iff_of_false nofun nofun

theorem AlikeAt.null_iff (hR : ∀ v w, R v w → (v = null ↔ w = null))
    (h : AlikeAt names R name v w) : v = null ↔ w = null := by
  unfold AlikeAt at h
  split_ifs at h
  · exact hR v w h
  · rw [h]

theorem alikeAt_of_mem (h : name ∈ names) : AlikeAt names R name = R := by
  funext v w
  rw [AlikeAt, if_pos h]

theorem alikeAt_of_not_mem (h : name ∉ names) : AlikeAt names R name = Eq := by
  funext v w
  rw [AlikeAt, if_neg h]

theorem null_iff_of_alikeAt_list :
    ∀ name v w, AlikeAt names (ListAlike R) name v w → (v = null ↔ w = null) :=
  fun _ _ _ h => h.null_iff fun _ _ => ListAlike.null_iff

theorem list_eq_of_alike (h : ListAlike R v w) (hitem : ∀ v w, R v w → item v = item w) :
    v.list name item = w.list name item := by
  cases h with
  | same | objectForArray | arrayForObject =>
      rfl
  | elements hall =>
      rw [list_arr, list_arr, Traced.each_congr hall hitem]

theorem list_eq_of_alike_eq (h : ListAlike Eq v w) : v.list name item = w.list name item := by
  refine list_eq_of_alike h ?_
  rintro _ _ rfl
  rfl

/-- What is made of a list of texts is the same if it is for texts that are alike. -/
theorem each_stringElement_bind_congr {S : String → String → Prop} {vs ws : List Json}
    {k l : List String → Decode α} (hrefl : ∀ s, S s s)
    (h : List.Forall₂ (fun v w => v = w ∨ ∃ s t, v = str s ∧ w = str t ∧ S s t) vs ws)
    (hk : ∀ ss ts, List.Forall₂ S ss ts → k ss = l ts) :
    (Traced.each (stringElement name) vs >>= k) = Traced.each (stringElement name) ws >>= l := by
  -- What follows is generalized, for it takes the texts that were read on the way down.
  induction h generalizing k l with
  | nil =>
      exact hk [] [] .nil
  | cons helement _ ih =>
      simp only [Traced.each, bind_assoc, pure_bind]
      rcases helement with rfl | ⟨s, t, rfl, rfl, hst⟩
      · exact bind_congr fun s => ih fun ss ts hall => hk _ _ (.cons (hrefl s) hall)
      · exact ih fun ss ts hall => hk _ _ (.cons hst hall)

end Json

end Alike

namespace Object

variable {α : Type} {S : String → Json → Json → Prop} {R : Json → Json → Prop} {o p : Object}
  {name typeName : String} {names : List String} {item f g : Json → Decode α}

theorem Alike.names_eq (h : o.Alike S p) : o.names = p.names := by
  unfold Alike at h
  induction h with
  | nil =>
      rfl
  | cons hmember _ ih =>
      exact congrArg₂ List.cons hmember.1 ih

/-- Objects that are alike both lack a property, or have alike values of it. -/
theorem Alike.get?_cases (h : o.Alike S p) (name : String) :
    o.get? name = none ∧ p.get? name = none ∨
      ∃ v w, o.get? name = some v ∧ p.get? name = some w ∧ S name v w := by
  unfold Alike at h
  induction h with
  | nil =>
      exact .inl ⟨rfl, rfl⟩
  | @cons m n _ _ hmember _ ih =>
      obtain ⟨k, v⟩ := m
      obtain ⟨_, w⟩ := n
      obtain ⟨rfl, hvalue⟩ := hmember
      rw [get?_cons, get?_cons]
      split_ifs with hname
      · exact .inr ⟨v, w, rfl, rfl, hname ▸ hvalue⟩
      · exact ih

theorem presence_of_get? {v : Json} (h : o.get? name = some v) :
    o.presence name = if v = .null then .null else .present := by
  unfold presence
  rw [h]
  cases v <;> simp

theorem Alike.presence_eq (h : o.Alike S p)
    (hnull : ∀ name v w, S name v w → (v = .null ↔ w = .null)) (name : String) :
    o.presence name = p.presence name := by
  obtain ⟨ho, hp⟩ | ⟨v, w, ho, hp, hvalue⟩ := h.get?_cases name
  · rw [presence_eq_absent_iff.mpr ho, presence_eq_absent_iff.mpr hp]
  · rw [presence_of_get? ho, presence_of_get? hp]
    exact if_congr (hnull name v w hvalue) rfl rfl

/-- What follows the reading of a property is the same if it is for alike values. -/
theorem Alike.value_bind_congr (h : o.Alike S p) (hf : ∀ v w, S name v w → f v = g w) :
    ((liftM (o.value name) : Decode Json) >>= f) =
      (liftM (p.value name) : Decode Json) >>= g := by
  unfold value
  obtain ⟨ho, hp⟩ | ⟨v, w, ho, hp, hvalue⟩ := h.get?_cases name
  · rw [ho, hp]
    rfl
  · rw [ho, hp]
    exact hf v w hvalue

theorem Alike.get?_eq (h : o.Alike S p) (hname : S name = Eq) : o.get? name = p.get? name := by
  obtain ⟨ho, hp⟩ | ⟨v, w, ho, hp, hvalue⟩ := h.get?_cases name
  · rw [ho, hp]
  · rw [hname] at hvalue
    rw [ho, hp, hvalue]

theorem Alike.require_eq (h : o.Alike S p) (hname : S name = Eq) :
    o.require name = p.require name := by
  unfold require
  rw [h.get?_eq hname]

/-- A list of an envelope is the same of alike objects if its elements are of alike values. -/
theorem Alike.envelopeList_eq (h : o.Alike S p) (hname : S name = Json.ListAlike R)
    (hitem : ∀ v w, R v w → item v = item w) :
    o.envelopeList name typeName item = p.envelopeList name typeName item := by
  obtain ⟨ho, hp⟩ | ⟨v, w, ho, hp, hvalue⟩ := h.get?_cases name
  · unfold envelopeList require
    rw [ho, hp]
  · rw [hname] at hvalue
    cases hvalue with
    | same =>
        unfold envelopeList require
        rw [ho, hp]
    | objectForArray | arrayForObject =>
        unfold envelopeList require
        rw [ho, hp]
        rfl
    | elements hall =>
        rw [envelopeList_of_arr ho, envelopeList_of_arr hp, Traced.each_congr hall hitem]

theorem Alike.envelopeJids_eq (h : o.Alike S p) (hname : S name = Json.ListAlike Eq) :
    o.envelopeJids name = p.envelopeJids name := by
  refine h.envelopeList_eq hname ?_
  rintro _ _ rfl
  rfl

theorem Alike.value_eq (h : o.Alike (Json.AlikeAt names R) p) (hname : name ∉ names) :
    o.value name = p.value name := by
  unfold value
  rw [h.get?_eq (Json.alikeAt_of_not_mem hname)]

theorem Alike.list_eq (h : o.Alike (Json.AlikeAt names (Json.ListAlike Eq)) p)
    (hname : name ∈ names) : o.list name item = p.list name item := by
  refine h.value_bind_congr fun v w hvalue => ?_
  rw [Json.alikeAt_of_mem hname] at hvalue
  exact Json.list_eq_of_alike_eq hvalue

end Object

/-- Objects that are alike are checked alike: they have the same names, and none of them has null
where the other has not. -/
theorem Shape.read_bind_eq_of_alike {α : Type} {S : String → Json → Json → Prop} {s : Shape}
    {o p : Object} {f : Object → Decode α} (h : o.Alike S p)
    (hnull : ∀ name v w, S name v w → (v = .null ↔ w = .null)) (hf : f o = f p) :
    (s.read (.obj o) >>= f) = s.read (.obj p) >>= f := by
  have hfault : s.firstFault? o = s.firstFault? p :=
    firstFault?_congr fun name _ => h.presence_eq hnull name
  have hunknown : s.unknown o = s.unknown p := by
    unfold unknown
    rw [h.names_eq]
  rw [read_obj, read_obj, hfault, hunknown]
  cases s.firstFault? p with
  | none =>
      let noted := (s.unknown p).map (Notice.ignored s.record)
      exact congrArg (fun run : Decode α => Traced.mk (noted ++ run.log) run.result) hf
  | some e =>
      rfl

namespace Json

variable {α : Type} {S : String → Json → Json → Prop} {v w : Json} {f : Object → Decode α}

/-- What is read of the properties of an object is the same if it is for objects that are alike. -/
theorem ObjectAlike.asObject_bind_eq (h : ObjectAlike S v w)
    (hf : ∀ o p, Object.Alike S o p → f o = f p) :
    ((liftM v.asObject : Decode Object) >>= f) = (liftM w.asObject : Decode Object) >>= f := by
  cases h with
  | same =>
      rfl
  | members h =>
      rw [lift_asObject_obj, lift_asObject_obj, pure_bind, pure_bind, hf _ _ h]

theorem ObjectAlike.read_bind_eq {s : Shape} (h : ObjectAlike S v w)
    (hnull : ∀ name v w, S name v w → (v = null ↔ w = null))
    (hf : ∀ o p, Object.Alike S o p → f o = f p) : (s.read v >>= f) = s.read w >>= f := by
  cases h with
  | same =>
      rfl
  | members h =>
      exact Shape.read_bind_eq_of_alike h hnull (hf _ _ h)

end Json

end JobWire
