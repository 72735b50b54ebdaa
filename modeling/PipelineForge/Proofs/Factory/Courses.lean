import PipelineForge.Proofs.Axis.Products
import PipelineForge.Proofs.Factory.Progress
import PipelineForge.Proofs.Lists

/-!
# Courses of factories

The course of a factory is the sequence of all that it does with its axes, call by call, and how
it fails in the end, as the axes alone decide it: it sets them up in order on the default
blueprint, and then fills in and orders one combination after the other, each from the blueprint
that was set up. When the axes are registered, and how often the factory looks at its inbox in the
meantime, is not part of it.
-/

namespace PipelineForge

open Axis

namespace Factory

inductive Deed where
  | setUp (c : Characteristic) (context : Context) (given : Blueprint)
  | fill (c : Characteristic) (value : Int32) (given : Blueprint)
  | order (o : CompileOrder)

def Deed.axis? : Deed → Option Characteristic
  | setUp c _ _ => some c
  | _ => none

def Deed.order? : Deed → Option CompileOrder
  | order o => some o
  | _ => none

/-- The calls that setting up some axes makes, up to the one in trouble. -/
def setups (context : Context) : List Characteristic → Blueprint → List Deed
  | [], _ => []
  | c :: cs, b =>
    .setUp c context b ::
      match c.setup context b with
      | (b', none) => setups context cs b'
      | (_, some _) => []

/-- The calls that filling in a tuple makes, up to the one in trouble. -/
def fills : List Characteristic → List Int32 → CompositeIndex → Blueprint → List Deed
  | c :: cs, v :: vs, i, b =>
    match i.extend c.span v with
    | .error _ => []
    | .ok i' =>
      if c.singleton then fills cs vs i' b
      else
        .fill c v b ::
          match c.fill v b with
          | (b', none) => fills cs vs i' b'
          | (_, some _) => []
  | _, _, _, _ => []

def varying (axes : List Characteristic) (tuple : List Int32) : List (Characteristic × Int32) :=
  (axes.zip tuple).filter fun x => !x.1.singleton

def filled : List (Characteristic × Int32) → Blueprint → Except Fault Blueprint
  | [], b => .ok b
  | (c, v) :: rest, b =>
    match c.fill v b with
    | (b', none) => filled rest b'
    | (_, some x) => .error x

def filling : List (Characteristic × Int32) → Blueprint → List Deed
  | [], _ => []
  | (c, v) :: rest, b =>
    .fill c v b ::
      match c.fill v b with
      | (b', none) => filling rest b'
      | (_, some _) => []

/-- What is done for one combination; the flag tells that it comes to an order. -/
def combination (packing : Packing) (axes : List Characteristic) (base : Blueprint)
    (tuple : List Int32) : List Deed × Bool :=
  match packing.encode tuple, filled (varying axes tuple) base with
  | .ok index, .ok blueprint =>
    (filling (varying axes tuple) base ++ [.order ⟨blueprint, index⟩], true)
  | _, _ => (filling (varying axes tuple) base, false)

/-- What is done for some combinations one after the other, up to the one that comes to no order. -/
def combinations (packing : Packing) (axes : List Characteristic) (base : Blueprint) :
    List (List Int32) → List Deed × Bool
  | [] => ([], true)
  | tuple :: tuples =>
    match combination packing axes base tuple with
    | (deeds, true) =>
      let (more, all) := combinations packing axes base tuples
      (deeds ++ more, all)
    | (deeds, false) => (deeds, false)

structure Course where
  deeds : List Deed
  failure : Option ForgeError

def failureBy : Trouble ForgeError → ForgeError
  | .error e => e
  | .fault _ => .aborted

structure Setting where
  context : Context
  log : Log.Threshold
deriving DecidableEq

def setting (f : Factory) : Setting := ⟨⟨f.name, f.frame⟩, f.log⟩

def course (setting : Setting) (axes : List Characteristic) : Course :=
  let begun := setups setting.context axes {}
  match Characteristic.setupAll setting.context axes {} with
  | (_, _, some trouble) => ⟨begun, some (failureBy trouble)⟩
  | (base, _, none) =>
    match Packing.ofSpans (axes.map Characteristic.span) with
    | .error bits => ⟨begun, some (.indexTooWide bits)⟩
    | .ok packing =>
      match miscount setting.log packing with
      | some _ => ⟨begun, some .aborted⟩
      | none =>
        let (made, all) := combinations packing axes base (tuples packing.spans)
        ⟨begun ++ made, if all then none else some .aborted⟩

section SetUp

variable {context : Context} {cs : List Characteristic} {b : Blueprint}

theorem setupAll_append (h : (Characteristic.setupAll context cs b).2.2 = none)
    (ds : List Characteristic) :
    Characteristic.setupAll context (cs ++ ds) b =
      let (b', done, trouble) :=
        Characteristic.setupAll context ds (Characteristic.setupAll context cs b).1
      (b', cs ++ done, trouble) := by
  induction cs generalizing b with
  | nil => rfl
  | cons c cs ih =>
    rw [List.cons_append, Characteristic.setupAll]
    rw [Characteristic.setupAll] at h ⊢
    split
    · next hSetup =>
      simp only [hSetup] at h
      cases h
    · next b' hSetup =>
      simp only [hSetup] at h ⊢
      rw [ih h]
      rfl

theorem setups_append (h : (Characteristic.setupAll context cs b).2.2 = none)
    (ds : List Characteristic) :
    setups context (cs ++ ds) b =
      setups context cs b ++ setups context ds (Characteristic.setupAll context cs b).1 := by
  induction cs generalizing b with
  | nil => rfl
  | cons c cs ih =>
    rw [List.cons_append, setups, setups]
    rw [Characteristic.setupAll] at h ⊢
    split at h
    · cases h
    · next b' hSetup =>
      simp only [hSetup]
      rw [ih h]
      rfl

theorem setupAll_of_trouble {t : Trouble ForgeError}
    (h : (Characteristic.setupAll context cs b).2.2 = some t) (ds : List Characteristic) :
    Characteristic.setupAll context (cs ++ ds) b = Characteristic.setupAll context cs b ∧
      setups context (cs ++ ds) b = setups context cs b := by
  induction cs generalizing b with
  | nil => cases h
  | cons c cs ih =>
    rw [List.cons_append, setups, setups, Characteristic.setupAll]
    rw [Characteristic.setupAll] at h ⊢
    split
    · next hSetup => simp only [hSetup, and_self]
    · next b' hSetup =>
      simp only [hSetup] at h ⊢
      obtain ⟨hAll, hCalls⟩ := ih h
      rw [hAll, hCalls]
      exact ⟨rfl, rfl⟩

theorem setups_isPrefix (context : Context) {axes : List Characteristic} (h : cs <+: axes) :
    setups context cs b <+: setups context axes b := by
  obtain ⟨ds, rfl⟩ := h
  cases hTrouble : (Characteristic.setupAll context cs b).2.2 with
  | none =>
    rw [setups_append hTrouble]
    exact List.prefix_append _ _
  | some t =>
    exact (setupAll_of_trouble hTrouble ds).2 ▸ List.prefix_rfl

theorem setups_getElem? {k : Nat} {d : Deed} (h : (setups context cs b)[k]? = some d) :
    ∃ c, cs[k]? = some c ∧ (Characteristic.setupAll context (cs.take k) b).2.2 = none ∧
      d = .setUp c context (Characteristic.setupAll context (cs.take k) b).1 := by
  induction cs generalizing b k with
  | nil => cases h
  | cons c cs ih =>
    rw [setups] at h
    cases k with
    | zero =>
      cases h
      exact ⟨c, rfl, rfl, rfl⟩
    | succ k =>
      rw [List.getElem?_cons_succ] at h
      rw [List.getElem?_cons_succ, List.take_succ_cons, Characteristic.setupAll]
      split at h
      · next b' hSetup =>
        simp only [hSetup]
        exact ih h
      · cases h

theorem axes_setups (h : (Characteristic.setupAll context cs b).2.2 = none) :
    (setups context cs b).filterMap Deed.axis? = cs := by
  induction cs generalizing b with
  | nil => rfl
  | cons c cs ih =>
    rw [Characteristic.setupAll] at h
    rw [setups, List.filterMap_cons]
    split at h
    · cases h
    · next b' hSetup =>
      simp only [hSetup]
      exact congrArg (c :: ·) (ih h)

theorem axes_setups_isPrefix (context : Context) (cs : List Characteristic) (b : Blueprint) :
    (setups context cs b).filterMap Deed.axis? <+: cs := by
  induction cs generalizing b with
  | nil => exact List.prefix_rfl
  | cons c cs ih =>
    rw [setups, List.filterMap_cons]
    split
    · next hAxis => cases hAxis
    · next hAxis =>
      cases hAxis
      refine List.cons_prefix_cons.mpr ⟨rfl, ?_⟩
      split
      · next b' _ => exact ih b'
      · exact List.nil_prefix

end SetUp

section Fill

variable {packing : Packing} {cs : List Characteristic} {vs : List Int32} {base : Blueprint}

/-- With values of the spans, filling is to fill the axes that vary and to pack all values. -/
theorem fillAll_of_inside (h : List.Forall₂ (· ∈ ·) vs (cs.map Characteristic.span))
    (i : CompositeIndex) (b : Blueprint) :
    ∃ j, Packing.extendAll i (cs.map Characteristic.span) vs = .ok j ∧
      fillAll cs vs i b = (match filled (varying cs vs) b with
        | .ok b' => .ok (j, b')
        | .error x => .error (.fault x)) ∧
      fills cs vs i b = filling (varying cs vs) b := by
  induction cs generalizing vs i b with
  | nil =>
    cases h
    exact ⟨i, rfl, rfl, rfl⟩
  | cons c cs ih =>
    rw [List.map_cons] at h
    cases h with
    | @cons v _ vs _ hMem hRest =>
      simp only [List.map_cons, Packing.extendAll, fillAll, fills,
        CompositeIndex.extend_of_mem i hMem]
      -- The value of every axis goes into the index, and that of a singleton into nothing else.
      cases hSingle : c.singleton with
      | true =>
        have hVarying : varying (c :: cs) (v :: vs) = varying cs vs := by simp [varying, hSingle]
        rw [hVarying]
        simpa using ih hRest _ b
      | false =>
        have hVarying : varying (c :: cs) (v :: vs) = (c, v) :: varying cs vs := by
          simp [varying, hSingle]
        rw [hVarying]
        cases hFill : c.fill v b with
        | mk b' trouble =>
          obtain ⟨j, hExtend, hBlueprint, hCalls⟩ :=
            ih hRest (i.push c.span.width (UInt64.ofNat (c.span.offset v))) b'
          refine ⟨j, hExtend, ?_⟩
          cases trouble with
          | none => simp [filled, filling, hFill, hBlueprint, hCalls]
          | some x => simp [filled, filling, hFill]

theorem filling_getElem? {pairs : List (Characteristic × Int32)} {b : Blueprint} {k : Nat}
    {d : Deed} (h : (filling pairs b)[k]? = some d) :
    ∃ c v given, pairs[k]? = some (c, v) ∧ filled (pairs.take k) b = .ok given ∧
      d = .fill c v given := by
  induction pairs generalizing b k with
  | nil => cases h
  | cons pair pairs ih =>
    obtain ⟨c, v⟩ := pair
    rw [filling] at h
    cases k with
    | zero =>
      cases h
      exact ⟨c, v, b, rfl, rfl, rfl⟩
    | succ k =>
      rw [List.getElem?_cons_succ] at h
      rw [List.getElem?_cons_succ, List.take_succ_cons, filled]
      split at h
      · exact ih h
      · cases h

/-- The order for a combination, and the calls that lead to it, are those of the course. -/
theorem orderOf_eq {f : Factory} {plan : Plan}
    (hSpans : plan.packing.spans = f.axes.map Characteristic.span)
    (hInside : List.Forall₂ (· ∈ ·) plan.odometer.current plan.packing.spans) :
    fills f.axes plan.odometer.current .zero f.base =
        filling (varying f.axes plan.odometer.current) f.base ∧
      ∃ index, plan.packing.encode plan.odometer.current = .ok index ∧
        orderOf f plan = (match filled (varying f.axes plan.odometer.current) f.base with
          | .ok b => .ok ⟨b, index⟩
          | .error x => .error (.fault x)) := by
  rw [hSpans] at hInside
  obtain ⟨index, hExtend, hBlueprint, hCalls⟩ := fillAll_of_inside hInside .zero f.base
  refine ⟨hCalls, index, ?_, ?_⟩
  · have hLength : plan.odometer.current.length = plan.packing.spans.length := by
      rw [hSpans]
      exact hInside.length_eq
    rw [Packing.encode, if_pos hLength, hSpans, hExtend]
    rfl
  · rw [orderOf, hBlueprint]
    cases filled (varying f.axes plan.odometer.current) f.base <;> rfl

theorem encode_injective {t u : List Int32} (ht : List.Forall₂ (· ∈ ·) t packing.spans)
    (hu : List.Forall₂ (· ∈ ·) u packing.spans) (h : packing.encode t = packing.encode u) :
    t = u := by
  obtain ⟨i, hi, _, hDecode⟩ := packing.encode_of_inside ht
  obtain ⟨j, hj, _, hDecode'⟩ := packing.encode_of_inside hu
  rw [hi, hj] at h
  rw [← hDecode, ← hDecode', Except.ok.inj h]

/-- All tuples but some last ones are spent: every index that was generated is that of one of them.
-/
def Spent (packing : Packing) (generated : List CompositeIndex) (rest : List (List Int32)) : Prop :=
  ∃ past, tuples packing.spans = past ++ rest ∧
    ∀ i ∈ generated, ∃ tuple ∈ past, packing.encode tuple = .ok i

section Spent

variable {generated : List CompositeIndex} {index : CompositeIndex} {tuple : List Int32}
  {rest : List (List Int32)}

theorem spent_start (packing : Packing) : Spent packing [] (tuples packing.spans) :=
  ⟨[], rfl, List.forall_mem_nil _⟩

theorem Spent.mem (h : Spent packing generated (tuple :: rest)) : tuple ∈ tuples packing.spans := by
  obtain ⟨past, hTuples, _⟩ := h
  rw [hTuples]
  exact List.mem_append_right _ List.mem_cons_self

theorem Spent.notMem (h : Spent packing generated (tuple :: rest))
    (hIndex : packing.encode tuple = .ok index) : index ∉ generated := by
  have hMem := h.mem
  obtain ⟨past, hTuples, hGenerated⟩ := h
  intro hOld
  obtain ⟨other, hPast, hSame⟩ := hGenerated index hOld
  have hOther : other ∈ tuples packing.spans := by
    rw [hTuples]
    exact List.mem_append_left _ hPast
  have hEqual : other = tuple :=
    encode_injective (mem_tuples.mp hOther) (mem_tuples.mp hMem) (hSame.trans hIndex.symm)
  have hDistinct := nodup_tuples packing.spans
  rw [hTuples] at hDistinct
  exact (List.nodup_append.mp hDistinct).2.2 other hPast tuple List.mem_cons_self hEqual

theorem Spent.next (h : Spent packing generated (tuple :: rest))
    (hIndex : packing.encode tuple = .ok index) : Spent packing (index :: generated) rest := by
  obtain ⟨past, hTuples, hGenerated⟩ := h
  refine ⟨past ++ [tuple], by rw [hTuples, List.append_assoc]; rfl, ?_⟩
  refine List.forall_mem_cons.mpr ⟨⟨tuple, ?_, hIndex⟩, fun i hi => ?_⟩
  · exact List.mem_append_right _ (List.mem_singleton_self _)
  · obtain ⟨other, hPast, hSame⟩ := hGenerated i hi
    exact ⟨other, List.mem_append_left _ hPast, hSame⟩

end Spent

theorem combination_of_filled {tuple : List Int32} {index : CompositeIndex} {b : Blueprint}
    (hIndex : packing.encode tuple = .ok index) (hFilled : filled (varying cs tuple) base = .ok b) :
    combination packing cs base tuple =
      (filling (varying cs tuple) base ++ [.order ⟨b, index⟩], true) := by
  simp only [combination, hIndex, hFilled]

theorem combination_of_fault (packing : Packing) {tuple : List Int32} {x : Fault}
    (hFilled : filled (varying cs tuple) base = .error x) :
    combination packing cs base tuple = (filling (varying cs tuple) base, false) := by
  rw [combination, hFilled]
  cases packing.encode tuple <;> rfl

theorem combinations_append {done : List (List Int32)}
    (h : (combinations packing cs base done).2 = true) (rest : List (List Int32)) :
    combinations packing cs base (done ++ rest) =
      ((combinations packing cs base done).1 ++ (combinations packing cs base rest).1,
        (combinations packing cs base rest).2) := by
  induction done with
  | nil => rfl
  | cons tuple done ih =>
    rw [List.cons_append, combinations]
    rw [combinations] at h ⊢
    split at h
    · simp only [ih h, List.append_assoc]
    · cases h

theorem combinations_concat {done : List (List Int32)}
    (h : (combinations packing cs base done).2 = true) (tuple : List Int32) :
    combinations packing cs base (done ++ [tuple]) =
      ((combinations packing cs base done).1 ++ (combination packing cs base tuple).1,
        (combination packing cs base tuple).2) := by
  rw [combinations_append h, combinations]
  rcases combination packing cs base tuple with ⟨deeds, _ | _⟩
  · rfl
  · simp only [combinations, List.append_nil]

theorem combinations_of_stop {done : List (List Int32)}
    (h : (combinations packing cs base done).2 = true) {tuple : List Int32}
    (hStop : (combination packing cs base tuple).2 = false) (rest : List (List Int32)) :
    combinations packing cs base (done ++ tuple :: rest) =
      ((combinations packing cs base done).1 ++ (combination packing cs base tuple).1, false) := by
  rw [combinations_append h, combinations]
  split
  · next hOne =>
    rw [hOne] at hStop
    cases hStop
  · next hOne => rw [hOne]

theorem filling_kind {pairs : List (Characteristic × Int32)} {b : Blueprint} {d : Deed}
    (h : d ∈ filling pairs b) : d.axis? = none ∧ d.order? = none := by
  obtain ⟨k, hk⟩ := List.mem_iff_getElem?.mp h
  obtain ⟨c, v, given, _, _, rfl⟩ := filling_getElem? hk
  exact ⟨rfl, rfl⟩

theorem mem_combination {tuple : List Int32} {d : Deed}
    (h : d ∈ (combination packing cs base tuple).1) :
    d ∈ filling (varying cs tuple) base ∨ ∃ o, d = .order o := by
  rw [combination] at h
  split at h
  · rcases List.mem_append.mp h with hFill | hOrder
    · exact .inl hFill
    · exact .inr ⟨_, List.mem_singleton.mp hOrder⟩
  · exact .inl h

theorem mem_combinations {todo : List (List Int32)} {d : Deed}
    (h : d ∈ (combinations packing cs base todo).1) :
    ∃ tuple ∈ todo, d ∈ (combination packing cs base tuple).1 := by
  induction todo with
  | nil => cases h
  | cons tuple todo ih =>
    rw [combinations] at h
    split at h
    · next deeds hOne =>
      rcases List.mem_append.mp h with hHere | hLater
      · exact ⟨tuple, List.mem_cons_self, by rw [hOne]; exact hHere⟩
      · obtain ⟨other, hMem, hDeed⟩ := ih hLater
        exact ⟨other, List.mem_cons_of_mem _ hMem, hDeed⟩
    · next deeds hOne => exact ⟨tuple, List.mem_cons_self, by rw [hOne]; exact h⟩

theorem orders_combination (packing : Packing) (cs : List Characteristic) (base : Blueprint)
    (tuple : List Int32) :
    (combination packing cs base tuple).2 = false ∧
        (combination packing cs base tuple).1.filterMap Deed.order? = [] ∨
      (combination packing cs base tuple).2 = true ∧
        ∃ o, (combination packing cs base tuple).1.filterMap Deed.order? = [o] ∧
          packing.encode tuple = .ok o.index ∧
          filled (varying cs tuple) base = .ok o.blueprint := by
  have hNone : (filling (varying cs tuple) base).filterMap Deed.order? = [] :=
    List.filterMap_eq_nil_iff.mpr fun d hd => (filling_kind hd).2
  rw [combination]
  split
  · next index blueprint hIndex hFilled =>
    refine .inr ⟨rfl, ⟨blueprint, index⟩, ?_, hIndex, hFilled⟩
    rw [List.filterMap_append, hNone]
    rfl
  · exact .inl ⟨rfl, hNone⟩

theorem orders_combinations {todo : List (List Int32)} {k : Nat} {o : CompileOrder}
    (h : ((combinations packing cs base todo).1.filterMap Deed.order?)[k]? = some o) :
    ∃ tuple, todo[k]? = some tuple ∧ packing.encode tuple = .ok o.index ∧
      filled (varying cs tuple) base = .ok o.blueprint := by
  induction todo generalizing k with
  | nil => cases h
  | cons tuple todo ih =>
    rw [combinations] at h
    rcases orders_combination packing cs base tuple with ⟨hStops, hNone⟩ | ⟨hGoes, o', hOne, hOrder⟩
    · split at h
      · next deeds hResult =>
        rw [hResult] at hStops
        cases hStops
      · next deeds hResult =>
        rw [hResult] at hNone
        rw [hNone] at h
        cases h
    · split at h
      · next deeds hResult =>
        rw [hResult] at hOne
        simp only [List.filterMap_append, hOne] at h
        cases k with
        | zero =>
          cases h
          exact ⟨tuple, rfl, hOrder⟩
        | succ k => exact ih h
      · next deeds hResult =>
        rw [hResult] at hGoes
        cases hGoes

end Fill

theorem miscount_eq_none_iff {log : Log.Threshold} {packing : Packing} :
    miscount log packing = none ↔ log.passes .debug = false ∨ ¬ packing.Full := by
  rw [miscount, combinationCount_eq, ← packing.prod_sizes_lt_iff]
  cases log.passes .debug with
  | false => exact iff_of_true rfl (.inl rfl)
  | true =>
    by_cases hFits : (packing.spans.map Span.size).prod < UInt64.size
    · simp [hFits]
    · simp [hFits]

section Course

variable {setting : Setting} {cs : List Characteristic}

theorem course_of_trouble {begun : List Characteristic} {trouble : Trouble ForgeError}
    (hTrouble : (Characteristic.setupAll setting.context begun {}).2.2 = some trouble)
    (hBegun : begun <+: cs) :
    course setting cs = ⟨setups setting.context begun {}, some (failureBy trouble)⟩ := by
  obtain ⟨rest, rfl⟩ := hBegun
  obtain ⟨hAll, hCalls⟩ := setupAll_of_trouble hTrouble rest
  rw [course, hAll, hCalls]
  split
  · next hSetup =>
    rw [hSetup] at hTrouble
    rw [Option.some.inj hTrouble]
  · next hSetup =>
    rw [hSetup] at hTrouble
    cases hTrouble

variable {base : Blueprint} {packing : Packing}
  (hSetup : Characteristic.setupAll setting.context cs {} = (base, cs, none))

include hSetup

theorem course_of_width {bits : Nat}
    (hPacking : Packing.ofSpans (cs.map Characteristic.span) = .error bits) :
    course setting cs = ⟨setups setting.context cs {}, some (.indexTooWide bits)⟩ := by
  simp only [course, hSetup, hPacking]

theorem course_of_count {x : Fault}
    (hPacking : Packing.ofSpans (cs.map Characteristic.span) = .ok packing)
    (hCount : miscount setting.log packing = some x) :
    course setting cs = ⟨setups setting.context cs {}, some .aborted⟩ := by
  simp only [course, hSetup, hPacking, hCount]

theorem course_of_plan
    (hPacking : Packing.ofSpans (cs.map Characteristic.span) = .ok packing)
    (hCount : miscount setting.log packing = none) :
    course setting cs =
      ⟨setups setting.context cs {} ++ (combinations packing cs base (tuples packing.spans)).1,
        if (combinations packing cs base (tuples packing.spans)).2 then none
        else some .aborted⟩ := by
  simp only [course, hSetup, hPacking, hCount]

omit hSetup in
/-- Axes that are set up and fit into an index are filled in combination by combination, also if
there are as many combinations as indices, as long as nobody counts them. -/
theorem course_of_countable (hSetup : (Characteristic.setupAll setting.context cs {}).2.2 = none)
    (hPacking : Packing.ofSpans (cs.map Characteristic.span) = .ok packing)
    (hCountable : setting.log.passes .debug = false ∨ ¬ packing.Full) :
    course setting cs =
      let base := (Characteristic.setupAll setting.context cs {}).1
      let (made, all) := combinations packing cs base (tuples packing.spans)
      ⟨setups setting.context cs {} ++ made, if all then none else some .aborted⟩ :=
  course_of_plan (Prod.ext rfl (Prod.ext (setupAll_eq_none hSetup) hSetup)) hPacking
    (miscount_eq_none_iff.mpr hCountable)

omit hSetup in
theorem course_deeds_cases (setting : Setting) (cs : List Characteristic) :
    (course setting cs).deeds = setups setting.context cs {} ∨
      ∃ base packing, Characteristic.setupAll setting.context cs {} = (base, cs, none) ∧
        Packing.ofSpans (cs.map Characteristic.span) = .ok packing ∧
        (course setting cs).deeds =
          setups setting.context cs {} ++
            (combinations packing cs base (tuples packing.spans)).1 := by
  cases hTrouble : (Characteristic.setupAll setting.context cs {}).2.2 with
  | some trouble =>
    rw [course_of_trouble hTrouble List.prefix_rfl]
    exact .inl rfl
  | none =>
    have hSetup : Characteristic.setupAll setting.context cs {} =
        ((Characteristic.setupAll setting.context cs {}).1, cs, none) :=
      Prod.ext rfl (Prod.ext (setupAll_eq_none hTrouble) hTrouble)
    cases hPacking : Packing.ofSpans (cs.map Characteristic.span) with
    | error bits =>
      rw [course_of_width hSetup hPacking]
      exact .inl rfl
    | ok packing =>
      cases hCount : miscount setting.log packing with
      | some x =>
        rw [course_of_count hSetup hPacking hCount]
        exact .inl rfl
      | none =>
        rw [course_of_plan hSetup hPacking hCount]
        exact .inr ⟨_, packing, hSetup, rfl, rfl⟩

end Course

/-- An axis is filled with its value of one combination, in what the axes before it have made of
the blueprint that was set up. -/
def FillsIn (context : Context) (cs : List Characteristic) (c : Characteristic) (v : Int32)
    (given : Blueprint) : Prop :=
  ∃ packing tuple k, Packing.ofSpans (cs.map Characteristic.span) = .ok packing ∧
    tuple ∈ tuples packing.spans ∧ (varying cs tuple)[k]? = some (c, v) ∧
    filled ((varying cs tuple).take k) (Characteristic.setupAll context cs {}).1 = .ok given

/-- The order is the one for the combination with a number: its blueprint is what was set up with
all values of that combination filled in and nothing else. -/
def OrderFor (context : Context) (cs : List Characteristic) (k : Nat) (o : CompileOrder) : Prop :=
  ∃ packing tuple, Packing.ofSpans (cs.map Characteristic.span) = .ok packing ∧
    (tuples packing.spans)[k]? = some tuple ∧ packing.encode tuple = .ok o.index ∧
    filled (varying cs tuple) (Characteristic.setupAll context cs {}).1 = .ok o.blueprint

/-- How a factory proceeds with its axes, as far as it has come. -/
structure Proceeds (context : Context) (cs : List Characteristic) (deeds : List Deed) : Prop where
  begun : deeds.filterMap Deed.axis? <+: cs
  /-- The first blueprint is the default, and each axis is set up on what the axes before it have
  left. -/
  chained : ∀ (k : Nat) (d : Deed), deeds[k]? = some d → d.axis? ≠ none → ∃ c, cs[k]? = some c ∧
    d = .setUp c context (Characteristic.setupAll context (cs.take k) {}).1
  /-- All axes are set up before anything else is done, and none later. -/
  complete : ∀ front d back, deeds = front ++ d :: back → d.axis? = none →
    front.filterMap Deed.axis? = cs ∧ ∀ e ∈ back, e.axis? = none
  fresh : ∀ c v given, Deed.fill c v given ∈ deeds → FillsIn context cs c v given
  ordered : ∀ (k : Nat) (o : CompileOrder), (deeds.filterMap Deed.order?)[k]? = some o →
    OrderFor context cs k o

section Proceeds

variable {setting : Setting} {context : Context} {cs : List Characteristic}

theorem setups_kind {b : Blueprint} {d : Deed} (h : d ∈ setups context cs b) :
    d.axis? ≠ none ∧ d.order? = none := by
  obtain ⟨k, hk⟩ := List.mem_iff_getElem?.mp h
  obtain ⟨c, _, _, rfl⟩ := setups_getElem? hk
  exact ⟨nofun, rfl⟩

/-- What a factory does after it has set up its axes. -/
structure Aftermath (context : Context) (cs : List Characteristic) (later : List Deed) : Prop where
  complete : later ≠ [] → (setups context cs {}).filterMap Deed.axis? = cs
  kind : ∀ d ∈ later, d.axis? = none
  fresh : ∀ c v given, Deed.fill c v given ∈ later → FillsIn context cs c v given
  ordered : ∀ (k : Nat) (o : CompileOrder), (later.filterMap Deed.order?)[k]? = some o →
    OrderFor context cs k o

theorem exists_aftermath (setting : Setting) (cs : List Characteristic) :
    ∃ later, (course setting cs).deeds = setups setting.context cs {} ++ later ∧
      Aftermath setting.context cs later := by
  rcases course_deeds_cases setting cs with hDeeds | ⟨base, packing, hSetup, hPacking, hDeeds⟩
  · refine ⟨[], by rw [hDeeds, List.append_nil], ?_⟩
    exact ⟨fun hSome => absurd rfl hSome, nofun, nofun, nofun⟩
  refine ⟨_, hDeeds, ?_⟩
  have hBase : (Characteristic.setupAll setting.context cs {}).1 = base := by rw [hSetup]
  have hCombination {d : Deed}
      (h : d ∈ (combinations packing cs base (tuples packing.spans)).1) :
      ∃ tuple ∈ tuples packing.spans,
        d ∈ filling (varying cs tuple) base ∨ ∃ o, d = .order o := by
    obtain ⟨tuple, hTuple, hDeed⟩ := mem_combinations h
    exact ⟨tuple, hTuple, mem_combination hDeed⟩
  constructor
  · intro _
    apply axes_setups
    rw [hSetup]
  · intro d hd
    obtain ⟨tuple, _, hFill | ⟨o, rfl⟩⟩ := hCombination hd
    · exact (filling_kind hFill).1
    · rfl
  · intro c v given hFill
    obtain ⟨tuple, hTuple, hFill | ⟨o, hOrder⟩⟩ := hCombination hFill
    · obtain ⟨k, hk⟩ := List.mem_iff_getElem?.mp hFill
      obtain ⟨c', v', given', hPair, hGiven, hSame⟩ := filling_getElem? hk
      cases hSame
      exact ⟨packing, tuple, k, hPacking, hTuple, hPair, by rw [hBase]; exact hGiven⟩
    · cases hOrder
  · intro k o hOrder
    obtain ⟨tuple, hTuple, hIndex, hBlueprint⟩ := orders_combinations hOrder
    exact ⟨packing, tuple, hPacking, hTuple, hIndex, by rw [hBase]; exact hBlueprint⟩

theorem axes_course (hSetup : (Characteristic.setupAll setting.context cs {}).2.2 = none) :
    (course setting cs).deeds.filterMap Deed.axis? = cs := by
  obtain ⟨later, hCourse, hAfter⟩ := exists_aftermath setting cs
  rw [hCourse, List.filterMap_append, axes_setups hSetup,
    List.filterMap_eq_nil_iff.mpr hAfter.kind, List.append_nil]

theorem split_of_axis {front back later : List Deed} {d : Deed}
    (h : front ++ d :: back = setups context cs {} ++ later) (hAxis : d.axis? = none) :
    ∃ part, front = setups context cs {} ++ part ∧ later = part ++ d :: back := by
  rcases List.append_eq_append_iff.mp h with ⟨part, hSetups, hBack⟩ | hSplit
  · cases part with
    | nil =>
      rw [List.append_nil] at hSetups
      exact ⟨[], by rw [hSetups, List.append_nil], hBack.symm⟩
    | cons e part =>
      -- The front would end inside the set-ups, and the next deed be one of them.
      obtain ⟨rfl, _⟩ := List.cons_eq_cons.mp hBack
      have hMem : d ∈ setups context cs {} := by
        rw [hSetups]
        exact List.mem_append_right _ List.mem_cons_self
      exact absurd hAxis (setups_kind hMem).1
  · exact hSplit

/-- Every first part of its course is a way for a factory to proceed. -/
theorem proceeds_of_isPrefix {deeds : List Deed} (h : deeds <+: (course setting cs).deeds) :
    Proceeds setting.context cs deeds := by
  obtain ⟨later, hCourse, hAfter⟩ := exists_aftermath setting cs
  rw [hCourse] at h
  have hAxes : later.filterMap Deed.axis? = [] := List.filterMap_eq_nil_iff.mpr hAfter.kind
  have hOrders : (setups setting.context cs {}).filterMap Deed.order? = [] :=
    List.filterMap_eq_nil_iff.mpr fun d hd => (setups_kind hd).2
  constructor
  · have hBegun := h.filterMap Deed.axis?
    rw [List.filterMap_append, hAxes, List.append_nil] at hBegun
    exact hBegun.trans (axes_setups_isPrefix setting.context cs {})
  · intro k d hd hAxis
    have hBoth := getElem?_of_isPrefix h hd
    rw [List.getElem?_append] at hBoth
    split at hBoth
    · obtain ⟨c, hc, _, hDeed⟩ := setups_getElem? hBoth
      exact ⟨c, hc, hDeed⟩
    · exact absurd (hAfter.kind d (List.mem_of_getElem? hBoth)) hAxis
  · intro front d back hSplit hAxis
    -- The split of what was done so far is one of the whole course.
    obtain ⟨rest, hRest⟩ := h
    rw [hSplit, List.append_assoc] at hRest
    obtain ⟨part, rfl, hLater⟩ := split_of_axis hRest hAxis
    have hPart : part.filterMap Deed.axis? = [] := List.filterMap_eq_nil_iff.mpr fun e he =>
      hAfter.kind e (hLater ▸ List.mem_append_left _ he)
    refine ⟨?_, fun e he => hAfter.kind e ?_⟩
    · rw [List.filterMap_append, hPart, List.append_nil]
      apply hAfter.complete
      rw [hLater]
      simp
    · rw [hLater]
      exact List.mem_append_right _ (List.mem_append_left _ (List.mem_cons_of_mem _ he))
  · intro c v given hFill
    rcases List.mem_append.mp (h.subset hFill) with hSetup | hLater
    · exact absurd rfl (setups_kind hSetup).1
    · exact hAfter.fresh c v given hLater
  · intro k o hOrder
    have hPrefix := h.filterMap Deed.order?
    rw [List.filterMap_append, hOrders, List.nil_append] at hPrefix
    exact hAfter.ordered k o (getElem?_of_isPrefix hPrefix hOrder)

end Proceeds

end Factory

end PipelineForge
