import Metaobject.Invoker.Strategy
import Metaobject.Proofs.Building
import Metaobject.Proofs.Marshaling
import Metaobject.Proofs.Resolution

/-!
# The tiers agree

A handle is bound to its member once, and a reflective invoker looks the member up at each use.
Both searches find the same member, so that the two have the same outcome for all arguments,
objects and values, on every heap and with every linkage: what bodies record is on the heap too, so
the same bodies run in the same order. A native entry that does what its member does is no
exception.
-/

namespace Metaobject

/-! ## Constructor invokers -/

namespace ConstructorInvoker

variable (link : Linkage) (depth : Nat)

/-- What a native entry does once the arguments have passed: it runs on a new instance. -/
def runEntry (owner : Class) (entry : Label) (args : List Value) : Act ObjectRef := do
  let o ← modifyGet fun h => h.allocate owner
  discard (runRoutine link depth entry o args)
  pure o

/-- Two invokers cannot be told apart by constructing. -/
def Agree (a b : ConstructorInvoker) : Prop :=
  ∀ args h, HeapAttempt.outcome (a.construct link depth args) h =
    HeapAttempt.outcome (b.construct link depth args) h

variable {link depth}

theorem agree_reflective {owner : Class} {params : List TypeRef} {k : Constructor}
    (h : owner.constructors.find? (fun j => j.params == params) = some k) :
    Agree link depth (.handle owner k) (.reflective owner params) := by
  intro args heap
  simp [construct, h]

theorem agree_native {owner : Class} {k : Constructor} {entry : Label}
    (h : ∀ args, TypeRef.AcceptsAll k.params args → ∀ heap,
      (runEntry link depth owner entry args).outcome heap =
        (Metaobject.construct link depth owner k args).outcome heap) :
    Agree link depth (.native owner k.params entry) (.handle owner k) := by
  intro args heap
  simp only [construct]
  cases hcheck : TypeRef.checkArguments k.params args with
  | error e => rfl
  | ok u =>
      have hrun := h args (TypeRef.checkArguments_eq_ok_iff.mp hcheck) heap
      simp only [HeapAttempt.outcome_ofExcept_ok_bind, HeapAttempt.outcome_ofAct, ← hrun]
      rfl

theorem Agree.trans {a b c : ConstructorInvoker} (hab : Agree link depth a b)
    (hbc : Agree link depth b c) : Agree link depth a c :=
  fun args h => (hab args h).trans (hbc args h)

end ConstructorInvoker

/-! ## Field invokers -/

namespace FieldInvoker

variable (link : Linkage) (depth : Nat)

/-- Two invokers cannot be told apart by reading and writing on the given objects and heaps. -/
def Agree (on : ObjectRef → Heap → Prop) (a b : FieldInvoker) : Prop :=
  ∀ target h, on target h →
    HeapAttempt.outcome (a.get link depth target) h =
        HeapAttempt.outcome (b.get link depth target) h ∧
      ∀ v, HeapAttempt.outcome (a.set link depth target v) h =
        HeapAttempt.outcome (b.set link depth target v) h

variable {link depth} {on : ObjectRef → Heap → Prop}

theorem agree_reflective {owner declaring : Class} {name : String} {type : TypeRef}
    (h : owner.belowRoot.find? (fun c => c.fields.any fun f => f.name == name) =
      some declaring) :
    Agree link depth on (.handle declaring ⟨declaring.name, name⟩ type)
      (.reflective owner name type) := by
  intro target heap _
  simp only [get, set, lookup, h]
  cases declaring.checkTarget target with
  | error e => exact ⟨rfl, fun v => rfl⟩
  | ok u => exact ⟨rfl, fun v => rfl⟩

/-- Where the object has the slot, reading and writing cannot fail any more, so an accessor that does
both does what the handle does. -/
theorem agree_native {declaring : Class} {slot : Slot} {type : TypeRef} {accessor : Accessor}
    (hget : ∀ target h v, h.readSlot target slot = some v →
      HeapAttempt.outcome (runAccessor link depth accessor.getter target []) h = (.ok v, h))
    (hset : ∀ target h v h', type.accepts v = true → h.writeSlot target slot v = some h' →
      ∃ u, HeapAttempt.outcome (runAccessor link depth accessor.setter target [v]) h =
        (.ok u, h')) :
    Agree link depth
      (fun target h => declaring.checkTarget target = .ok () → (h.readSlot target slot).isSome)
      (.native declaring slot.name type accessor) (.handle declaring slot type) := by
  intro target heap hslot
  simp only [get, set]
  cases hcheck : declaring.checkTarget target with
  | error e => exact ⟨rfl, fun v => rfl⟩
  | ok u =>
      obtain ⟨w, hw⟩ := Option.isSome_iff_exists.mp (hslot hcheck)
      refine ⟨?_, fun v => ?_⟩
      · simp [readSlot, hget target heap w hw, hw]
      · cases hv : type.check 1 v with
        | error e => rfl
        | ok u =>
            have haccepts : type.accepts v = true := by
              by_contra hrefused
              simp [TypeRef.check, hrefused] at hv
            obtain ⟨h', hwrite⟩ : ∃ h', heap.writeSlot target slot v = some h' := by
              simp [Heap.writeSlot, hw]
            obtain ⟨u', hrun⟩ := hset target heap v h' haccepts hwrite
            simp [writeSlot, hwrite, HeapAttempt.outcome_discard, hrun, Except.map]

theorem Agree.trans {a b c : FieldInvoker} (hab : Agree link depth on a b)
    (hbc : Agree link depth on b c) : Agree link depth on a c :=
  fun target h hon => ⟨(hab target h hon).1.trans (hbc target h hon).1,
    fun v => ((hab target h hon).2 v).trans ((hbc target h hon).2 v)⟩

end FieldInvoker

/-! ## What the strategies make -/

namespace Strategy

theorem constructor_of_typedHandle {enabled : Bool} {m : ConstructorMember}
    {invoker : ConstructorInvoker} (h : (typedHandle enabled).constructor m = .ok invoker) :
    invoker = .handle m.owner m.constructor := by
  simp only [typedHandle, bind, Except.bind] at h
  split at h
  · cases h
  · exact (Except.ok.inj h).symm

theorem constructor_of_native {enabled : Bool} {m : ConstructorMember}
    {invoker : ConstructorInvoker} (h : (native enabled).constructor m = .ok invoker) :
    ∃ entry ∈ m.constructor.native, invoker = .native m.owner m.params entry := by
  simp only [native] at h
  split at h
  · cases h
  · split at h
    · rename_i entry hentry
      exact ⟨entry, hentry, (Except.ok.inj h).symm⟩
    · cases h

theorem field_of_typedHandle {enabled : Bool} {m : FieldMember} {invoker : FieldInvoker}
    (h : (typedHandle enabled).field m = .ok invoker) :
    invoker = .handle m.declaring ⟨m.declaring.name, m.name⟩ m.field.type := by
  simp only [typedHandle, bind, Except.bind] at h
  split at h
  · cases h
  · split at h
    · cases h
    · exact (Except.ok.inj h).symm

theorem field_of_native {enabled : Bool} {m : FieldMember} {invoker : FieldInvoker}
    (h : (native enabled).field m = .ok invoker) :
    ∃ accessor ∈ m.field.native,
      invoker = .native m.declaring m.name m.field.type accessor := by
  simp only [native] at h
  split at h
  · cases h
  · split at h
    · rename_i accessor haccessor
      exact ⟨accessor, haccessor, (Except.ok.inj h).symm⟩
    · cases h

end Strategy

/-! ## The tiers agree -/

namespace ConstructorMember

/-- A native entry of the constructor, if there is one, does what the constructor does with all
arguments that the parameters take. -/
def EntryIsPlain (link : Linkage) (depth : Nat) (m : ConstructorMember) : Prop :=
  ∀ entry ∈ m.constructor.native, ∀ args, TypeRef.AcceptsAll m.params args → ∀ h,
    (ConstructorInvoker.runEntry link depth m.owner entry args).outcome h =
      (construct link depth m.owner m.constructor args).outcome h

theorem find?_params {m : ConstructorMember}
    (hnodup : (m.owner.constructors.map Constructor.params).Nodup) :
    m.owner.constructors.find? (fun k => k.params == m.params) = some m.constructor := by
  have hmem : m.constructor ∈ m.owner.constructors := List.getElem_mem m.index.isLt
  have hsome : (m.owner.constructors.find? fun k => k.params == m.params).isSome := by
    rw [List.find?_isSome]
    exact ⟨m.constructor, hmem, beq_self_eq_true _⟩
  obtain ⟨k, hk⟩ := Option.isSome_iff_exists.mp hsome
  have hparams : k.params = m.constructor.params := by simpa [params] using List.find?_some hk
  rw [hk, List.inj_on_of_nodup_map hnodup (List.mem_of_find?_eq_some hk) hmem hparams]

end ConstructorMember

namespace FieldMember

def slot (m : FieldMember) : Slot := ⟨m.declaring.name, m.name⟩

/-- A native accessor of the field, if there is one, reads and writes the place of the field on the
objects that have it. -/
def AccessorIsPlain (link : Linkage) (depth : Nat) (m : FieldMember) : Prop :=
  ∀ accessor ∈ m.field.native,
    (∀ target h v, h.readSlot target m.slot = some v →
      HeapAttempt.outcome (FieldInvoker.runAccessor link depth accessor.getter target []) h =
        (.ok v, h)) ∧
    ∀ target h v h', m.field.type.accepts v = true → h.writeSlot target m.slot v = some h' →
      ∃ u, HeapAttempt.outcome
        (FieldInvoker.runAccessor link depth accessor.setter target [v]) h = (.ok u, h')

/-- The object has the field, unless it is no instance of the class that declares the field. -/
def Given (m : FieldMember) (target : ObjectRef) (h : Heap) : Prop :=
  m.declaring.checkTarget target = .ok () → (h.readSlot target m.slot).isSome

/-- Invokers of both tiers read and set a field as its handle does. -/
theorem agree_handle {m : FieldMember} {s : Strategy} {i : FieldInvoker}
    (hs : s = .reflective ∨ ∃ enabled, s = .typedHandle enabled) (hi : s.field m = .ok i)
    (hfind : m.owner.belowRoot.find? (fun c => c.fields.any fun f => f.name == m.name) =
      some m.declaring) (link : Linkage) (depth : Nat) :
    FieldInvoker.Agree link depth (fun _ _ => True) i
      (.handle m.declaring m.slot m.field.type) := by
  intro o h _
  rcases hs with rfl | ⟨enabled, rfl⟩
  · obtain rfl := Except.ok.inj hi
    have hreflective : FieldInvoker.Agree link depth (fun _ _ => True)
        (.handle m.declaring m.slot m.field.type) (.reflective m.owner m.name m.field.type) :=
      FieldInvoker.agree_reflective hfind
    obtain ⟨hget, hset⟩ := hreflective o h trivial
    exact ⟨hget.symm, fun v => (hset v).symm⟩
  · rw [Strategy.field_of_typedHandle hi]
    exact ⟨rfl, fun _ => rfl⟩

end FieldMember

/-- For every member that resolves on a built class, a typed handle and the reflective invoker have
the same outcome on all arguments, objects, values and heaps, and so has a native invoker whose
entry does what the member does. -/
theorem tiers_agree {spec : ClassSpec} {id : Nat} {owner : Class}
    (hbuilt : spec.build id = .ok owner) (r : Registry) (link : Linkage) (depth : Nat) :
    (∀ requested m, Attempt.outcome (r.resolveConstructor owner requested) = .ok m →
      ∃ plain, Strategy.reflective.constructor m = .ok plain ∧
        (∀ enabled invoker, (Strategy.typedHandle enabled).constructor m = .ok invoker →
          invoker.Agree link depth plain) ∧
        ∀ enabled invoker, (Strategy.native enabled).constructor m = .ok invoker →
          m.EntryIsPlain link depth → invoker.Agree link depth plain) ∧
    ∀ name m, Attempt.outcome (owner.resolveField name) = .ok m →
      ∃ plain, Strategy.reflective.field m = .ok plain ∧
        (∀ enabled invoker, (Strategy.typedHandle enabled).field m = .ok invoker →
          FieldInvoker.Agree link depth (fun _ _ => True) invoker plain) ∧
        ∀ enabled invoker, (Strategy.native enabled).field m = .ok invoker →
          m.AccessorIsPlain link depth → FieldInvoker.Agree link depth m.Given invoker plain := by
  constructor
  · intro requested m hm
    have howner : m.owner = owner := Registry.owner_of_resolveConstructor hm
    have hnodup : (m.owner.constructors.map Constructor.params).Nodup :=
      howner ▸ ClassSpec.nodup_params_of_build hbuilt
    have hplain : ConstructorInvoker.Agree link depth (.handle m.owner m.constructor)
        (.reflective m.owner m.params) :=
      ConstructorInvoker.agree_reflective (ConstructorMember.find?_params hnodup)
    refine ⟨_, rfl, ?_, ?_⟩
    · intro enabled invoker h
      rw [Strategy.constructor_of_typedHandle h]
      exact hplain
    · intro enabled invoker h hentry
      obtain ⟨entry, hnative, rfl⟩ := Strategy.constructor_of_native h
      exact (ConstructorInvoker.agree_native (hentry entry hnative)).trans hplain
  · intro name m hm
    obtain ⟨howner, rfl, hfind⟩ := Class.resolveField_eq_ok hm
    have hplain (on : ObjectRef → Heap → Prop) : FieldInvoker.Agree link depth on
        (.handle m.declaring m.slot m.field.type) (.reflective m.owner m.name m.field.type) :=
      FieldInvoker.agree_reflective (howner ▸ hfind)
    refine ⟨_, rfl, ?_, ?_⟩
    · intro enabled invoker h
      rw [Strategy.field_of_typedHandle h]
      exact hplain _
    · intro enabled invoker h haccessor
      obtain ⟨accessor, hnative, rfl⟩ := Strategy.field_of_native h
      obtain ⟨hget, hset⟩ := haccessor accessor hnative
      exact (FieldInvoker.agree_native hget hset).trans (hplain _)

/-! ### A class with native entries -/

def initialisingBy (k : Constructor) : Routine := fun this args =>
  .initialise this k args fun
    | .ok _ => .done .null
    | .error e => .raise e

theorem ConstructorMember.entryIsPlain_of_initialising {link : Linkage} {depth : Nat}
    {m : ConstructorMember}
    (h : ∀ entry ∈ m.constructor.native, link entry = initialisingBy m.constructor) :
    m.EntryIsPlain link depth := by
  intro entry hentry args _ heap
  simp only [ConstructorInvoker.runEntry, construct, initialise, runRoutine, h entry hentry,
    initialisingBy, Program.run, Act.outcome_bind, Act.outcome_modifyGet, Act.outcome_discard,
    Act.outcome_attempt]
  rcases (perform link depth (.initialise (heap.allocate m.owner).1 m.constructor args)).outcome
    (heap.allocate m.owner).2 with ⟨(_ | _) | _, _⟩ <;> rfl

def readingSlot (slot : Slot) : Routine := fun this _ =>
  .readSlot this slot.owner slot.name fun v => .done (v.getD .null)

def writingSlot (slot : Slot) : Routine := fun this args =>
  .writeSlot this slot.owner slot.name (args.getD 0 .null) fun _ => .done .null

theorem FieldMember.accessorIsPlain_of_slot {link : Linkage} {depth : Nat} {m : FieldMember}
    (h : ∀ accessor ∈ m.field.native,
      link accessor.getter = readingSlot m.slot ∧ link accessor.setter = writingSlot m.slot) :
    m.AccessorIsPlain link depth := by
  intro accessor haccessor
  obtain ⟨hgetter, hsetter⟩ := h accessor haccessor
  constructor
  · intro target heap v hv
    simp only [FieldInvoker.runAccessor, HeapAttempt.outcome_ofAct, runRoutine, hgetter,
      readingSlot, Program.run, Act.outcome_bind, Act.outcome_attempt, Act.outcome_modifyGet, hv]
    rfl
  · intro target heap v h' _ hwrite
    refine ⟨.null, ?_⟩
    simp only [FieldInvoker.runAccessor, HeapAttempt.outcome_ofAct, runRoutine, hsetter,
      writingSlot, Program.run, Act.outcome_bind, Act.outcome_attempt, Act.outcome_modifyGet,
      List.getD_cons_zero, hwrite]
    rfl

namespace Samples

/-- A class with a field, whose constructor without parameters does what routine 0 does. -/
def shape : ClassSpec :=
  { ClassSpec.named "app.Shape" .ordinary with
    constructors := [⟨[], .pub, some 0, none⟩]
    fields := [⟨"id", .primitive .int, .pub, false, some ⟨3, 4⟩⟩] }

/-- A subclass with a native entry. -/
def circle : ClassSpec :=
  { ClassSpec.named "app.Circle" .ordinary with
    superclass := some (shape.described 1)
    constructors := [⟨[.primitive .int], .pub, some 1, some 2⟩] }

def circleConstructor : ConstructorMember := ⟨circle.described 2, ⟨0, by decide⟩⟩

def circleField : FieldMember := ⟨circle.described 2, shape.described 1, ⟨0, by decide⟩⟩

def circleRoutines : Linkage
  | 0 => fun this _ => .setField this "id" (.int 7) fun _ => .done .null
  | 1 => fun this args => .setField this "id" (args.getD 0 .null) fun _ => .done .null
  | 2 => initialisingBy circleConstructor.constructor
  | 3 => readingSlot circleField.slot
  | _ => writingSlot circleField.slot

theorem tiers_agree_on_circle :
    circle.build 2 = .ok (circle.described 2) ∧
      (∀ invoker ∈ [ConstructorInvoker.handle (circle.described 2) circleConstructor.constructor,
          .native (circle.described 2) [.primitive .int] 2],
        invoker.Agree circleRoutines 5 (.reflective (circle.described 2) [.primitive .int])) ∧
      FieldInvoker.Agree circleRoutines 5 (fun _ _ => True)
        (.handle (shape.described 1) ⟨"app.Shape", "id"⟩ (.primitive .int))
        (.reflective (circle.described 2) "id" (.primitive .int)) ∧
      FieldInvoker.Agree circleRoutines 5 circleField.Given
        (.native (shape.described 1) "id" (.primitive .int) ⟨3, 4⟩)
        (.reflective (circle.described 2) "id" (.primitive .int)) := by
  have hbuilt : circle.build 2 = .ok (circle.described 2) := rfl
  obtain ⟨hconstructor, hfield⟩ := tiers_agree hbuilt .initial circleRoutines 5
  obtain ⟨plain, hplain, hhandle, hnative⟩ :=
    hconstructor (some [.boxed .int]) circleConstructor rfl
  obtain ⟨plainField, hplainField, hhandleField, hnativeField⟩ := hfield "id" circleField rfl
  cases hplain
  cases hplainField
  have hentry : circleConstructor.EntryIsPlain circleRoutines 5 :=
    circleConstructor.entryIsPlain_of_initialising fun entry h => by
      cases h
      rfl
  have haccessor : circleField.AccessorIsPlain circleRoutines 5 :=
    circleField.accessorIsPlain_of_slot fun accessor h => by
      cases h
      exact ⟨rfl, rfl⟩
  refine ⟨hbuilt, ?_, hhandleField true _ rfl, hnativeField true _ rfl haccessor⟩
  intro invoker h
  rcases List.mem_cons.mp h with rfl | h
  · exact hhandle true _ rfl
  · obtain rfl := List.mem_singleton.mp h
    exact hnative true _ rfl hentry

end Samples

end Metaobject
