import JobWire.Proofs.Event.RoundTrip

/-!
# Events of no known kind

An event whose kind is not known is never refused for what else it says: each of its further
properties is kept as the text of its value, and a value that stems from a text is the one that its
own text stands for.  So writing such an event puts its kind and its time in front, and leaves all
that follows as it was.

**Results.**
* `Json.Readable.of_holds`: whatever is inside a value that was read can be read by itself.
* `Event.log_passes_through`: an event of no known kind is written as the object that it was read
  from, up to the places of its kind and its time.
-/

namespace JobWire

namespace Json

/-- The value is the root, or somewhere inside it. -/
inductive Holds (root : Json) : Json → Prop where
  | root : Holds root root
  | item {items : List Json} {v : Json} : Holds root (arr items) → v ∈ items → Holds root v
  | member {members : Object} {m : String × Json} :
      Holds root (obj members) → m ∈ members → Holds root m.2

theorem Readable.of_holds {root v : Json} (h : root.Readable 0) (hv : root.Holds v) :
    v.Readable 0 := by
  induction hv with
  | root =>
      exact h
  | item _ hitem ih =>
      exact ((readable_arr_iff.mp ih).2 _ hitem).mono (Nat.zero_le 1)
  | member _ hmember ih =>
      exact ((readable_obj_iff.mp ih).2.2 _ hmember).mono (Nat.zero_le 1)

end Json

namespace Event

section Kept

variable {o : Object} {m : String × Json} {what : String} {time : Int} {level : Nat}

theorem mem_keptMembers_iff : m ∈ keptMembers o ↔ m ∈ o ∧ m.1 ∉ reservedNames := by
  simp [keptMembers]

theorem keptMembers_eq_filter :
    keptMembers o = o.filter fun m => m.1 ≠ "what" ∧ m.1 ≠ "when" :=
  List.filter_congr fun m _ => by simp [reservedNames]

/-- What an object keeps for a log event are further properties that it accepts. -/
theorem validExtras_texts (ho : (Json.obj o).Readable level) :
    ValidExtras (LogDraft.texts (keptMembers o)) := by
  have hnames : (LogDraft.texts (keptMembers o)).map Prod.fst = (keptMembers o).names := by
    rw [LogDraft.texts, List.map_map]
    rfl
  have hnodup : o.names.Nodup := (Json.readable_obj_iff.mp ho).2.1
  rw [ValidExtras, hnames]
  refine ⟨fun n hn hkept => ?_, hnodup.sublist (List.filter_sublist.map _), ?_⟩
  · obtain ⟨m, hm, rfl⟩ := List.mem_map.mp hkept
    exact (mem_keptMembers_iff.mp hm).2 hn
  · refine List.forall_mem_map.mpr fun m hm => ?_
    have hreadable := (readable_of_mem_keptMembers ho m hm).mono (Nat.zero_le _)
    rw [Json.parse_render_of_readable hreadable, Option.isSome_some]

/-- The kind, the time and what is kept are the properties of the object. -/
theorem perm_members (hnodup : o.names.Nodup) (hwhat : o.get? "what" = some (.str what))
    (hwhen : o.get? "when" = some (.int time)) :
    ((EventHeader.mk what time).members ++ keptMembers o).Perm o := by
  have hreserved : ∀ m ∈ (EventHeader.mk what time).members, m.1 ∈ reservedNames := by
    simp [EventHeader.members, reservedNames]
  have hheader : (EventHeader.mk what time).members.Nodup := by
    simp [EventHeader.members]
  have hmembers : o.Nodup := hnodup.of_map
  have hwritten : ((EventHeader.mk what time).members ++ keptMembers o).Nodup := by
    refine List.nodup_append.mpr ⟨hheader, hmembers.filter _, ?_⟩
    rintro m hm _ hkept rfl
    exact (mem_keptMembers_iff.mp hkept).2 (hreserved m hm)
  refine (List.perm_ext_iff_of_nodup hwritten hmembers).mpr fun m => ?_
  rw [List.mem_append, mem_keptMembers_iff]
  constructor
  · rintro (hm | ⟨hm, -⟩)
    · rcases List.mem_pair.mp hm with rfl | rfl
      · exact Object.mem_of_get? hwhat
      · exact Object.mem_of_get? hwhen
    · exact hm
  · intro hm
    -- Names are not repeated, so a member that bears a reserved name is the kind or the time.
    by_cases hname : m.1 ∈ reservedNames
    · have hget : o.get? m.1 = some m.2 := Object.get?_of_mem hnodup hm
      refine .inl (List.mem_pair.mpr ?_)
      rcases List.mem_pair.mp hname with hkind | hstamp
      · rw [hkind, hwhat, Option.some.injEq] at hget
        exact .inl (Prod.ext hkind hget.symm)
      · rw [hstamp, hwhen, Option.some.injEq] at hget
        exact .inr (Prod.ext hstamp hget.symm)
    · exact .inr ⟨hm, hname⟩

end Kept

/-- An event of no known kind is read from every object that was read from a text, whatever else the
object has.  It is written with its kind and its time in front, and with every other property as it
was, in the same order. -/
theorem log_passes_through {text what : String} {root : Json} {o : Object} {time : Int}
    (hparse : Json.parse text = some root) (hholds : root.Holds (.obj o))
    (hwhat : o.get? "what" = some (.str what)) (hblank : NotBlank what)
    (hunknown : ∀ kind : EventKind, kind.name ≠ what)
    (hwhen : o.get? "when" = some (.int time)) (htime : 0 ≤ time) :
    ∃ extras written, (ofJson (.obj o)).result = .ok (.log what time extras) ∧
      (Event.log what time extras).toJson = .obj written ∧ written.Perm o ∧
      written = ("what", .str what) :: ("when", .int time) ::
        o.filter fun m => m.1 ≠ "what" ∧ m.1 ≠ "when" := by
  have hreadable : (Json.obj o).Readable 0 := (Json.readable_of_parse hparse).of_holds hholds
  have hextras := extraMembers_texts (readable_of_mem_keptMembers hreadable)
  refine ⟨LogDraft.texts (keptMembers o), _, ?_, rfl, ?_, ?_⟩
  · refine result_ofJson_eq_ok_iff.mpr ⟨o, rfl, ⟨hwhat, hwhen, rfl⟩, ?_⟩
    exact ⟨⟨hblank, EventKind.ofName?_eq_none_iff.mpr hunknown⟩, htime,
      validExtras_texts hreadable⟩
  · rw [ownMembers, hextras]
    exact perm_members (Json.readable_obj_iff.mp hreadable).2.1 hwhat hwhen
  · rw [ownMembers, hextras, keptMembers_eq_filter]
    rfl

/-- An event inside an array, with properties that are called as those of a log event are, and with
a kind and a time of another event inside one of them. -/
def seen : Object :=
  [("data", .obj [("what", .str "put"), ("when", .null)]), ("when", .int 5),
    ("extras", .arr [.float .nan]), ("what", .str "seen"), ("queue", .int 1)]

theorem seen_passes_through :
    ∃ text extras, Json.parse text = some (.arr [.obj seen]) ∧
      (ofJson (.obj seen)).result = .ok (.log "seen" 5 extras) ∧
      (Event.log "seen" 5 extras).toJson =
        .obj [("what", .str "seen"), ("when", .int 5),
          ("data", .obj [("what", .str "put"), ("when", .null)]),
          ("extras", .arr [.float .nan]), ("queue", .int 1)] := by
  have hparse : Json.parse (Json.arr [.obj seen]).render = some (.arr [.obj seen]) := by
    decide +kernel
  have hholds : (Json.arr [.obj seen]).Holds (.obj seen) := .item .root List.mem_cons_self
  have hwhat : seen.get? "what" = some (.str "seen") := rfl
  have hunknown : ∀ kind : EventKind, kind.name ≠ "seen" :=
    EventKind.ofName?_eq_none_iff.mp (by decide)
  obtain ⟨extras, _, hread, hwritten, -, rfl⟩ := log_passes_through hparse hholds hwhat
    (by decide) hunknown rfl (by decide : (0 : Int) ≤ 5)
  exact ⟨_, extras, hparse, hread, hwritten⟩

end Event

end JobWire
