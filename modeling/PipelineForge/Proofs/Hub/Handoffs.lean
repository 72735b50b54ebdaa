import PipelineForge.Characteristic.Standard
import PipelineForge.Proofs.Factory.Progress
import PipelineForge.Proofs.Hub.Runs

/-!
# What factories hand off

In every run of a plant, each factory sends a first part of the enumeration of its axes and, if it
succeeds, all of it. The caches may be shared by any number of factories and may be destroyed at
any time; only factories fill them. How the slots of a hub take the pipelines is not looked at.
-/

namespace PipelineForge

open Axis
open Factory (Carries Event Follows Grown Inbox Record Report State endingsIn madeIn sentIn)
open Tasks (Mode TaskId)

theorem Factory.Office.inbox_congr {o o' : Factory.Office} (h : o'.inboxes = o.inboxes)
    (g : FactoryId) : o'.inbox g = o.inbox g := by rw [inbox, inbox, h]

theorem Factory.Office.inbox_of_set {o o' : Factory.Office} {g : FactoryId} {i : Inbox}
    (h : o'.inboxes = o.inboxes.set g i) (k : FactoryId) :
    o'.inbox k = if k = g ∧ g < o.inboxes.length then i else o.inbox k := by
  rw [← inbox_setInbox]
  exact inbox_congr h k

theorem Factory.Office.inbox_of_append {o o' : Factory.Office}
    (h : o'.inboxes = o.inboxes ++ [({} : Inbox)]) (k : FactoryId) : o'.inbox k = o.inbox k := by
  rw [inbox, inbox, h, List.getD_eq_getElem?_getD, List.getD_eq_getElem?_getD]
  by_cases hOld : k < o.inboxes.length
  · rw [List.getElem?_append_left hOld]
  · rw [List.getElem?_append_right (Nat.le_of_not_lt hOld),
      List.getElem?_eq_none (Nat.le_of_not_lt hOld)]
    cases k - o.inboxes.length with
    | zero => rfl
    | succ n => rfl

namespace Hub

/-- What the records of a hub's factories tell about the hub. -/
structure Told (h : Hub) (record : FactoryId → Record) : Prop where
  members : ∀ t f m, h.pool.member? t = some (f, m) →
    Follows f (h.office.inbox f.id) (record f.id) m
  silent : ∀ g, (∀ t f m, h.pool.member? t = some (f, m) → f.id ≠ g) →
    (record g).made = [] ∧ (record g).endings = []
  pending : ∀ key f, h.pending? key = some f →
    (record key).admitted = (h.office.inbox key).pending
  unborn : ∀ g, h.office.inboxes.length ≤ g → (record g).admitted = []

theorem told_initial (settings : HubSettings) :
    ({ settings } : Hub).Told fun _ => ⟨[], [], []⟩ := by
  have hMember (t : TaskId) : ({ settings } : Hub).pool.member? t = none := rfl
  have hPending (key : FactoryId) : ({ settings } : Hub).pending? key = none := rfl
  constructor
  · intro t f m hSome
    rw [hMember] at hSome
    cases hSome
  · intro g _
    exact ⟨rfl, rfl⟩
  · intro key f hSome
    rw [hPending] at hSome
    cases hSome
  · intro g _
    rfl

variable {h h' : Hub} {record : FactoryId → Record}

theorem Told.grow (hTold : h.Told record) (hOrderly : h.Orderly)
    (hOpen : h.office.isOpen = true) (hAlike : Alike h h')
    {more : FactoryId → List Characteristic}
    (hLength : h'.office.inboxes.length = h.office.inboxes.length)
    (hPending : ∀ g f, h'.pending? g = some f → h.pending? g = some f)
    (hGrown : ∀ g, g < h.office.inboxes.length →
      Grown (h.office.inbox g) (h'.office.inbox g) (more g))
    (hKnown : ∀ g, h.office.inboxes.length ≤ g → more g = []) :
    h'.Told fun g => (record g).admitting (more g) := by
  constructor
  · intro t f m hMember
    rw [hAlike.members] at hMember
    have hBorn := hOrderly.known t f m hMember
    exact (hTold.members t f m hMember).grow (hGrown f.id hBorn)
  · intro g hNone
    apply hTold.silent g
    intro t f m hMember
    rw [← hAlike.members] at hMember
    exact hNone t f m hMember
  · intro key f hSome
    have hBefore := hPending key f hSome
    have hBorn := hOrderly.pending?_lt hOpen hBefore
    rw [(hGrown key hBorn).pending, ← hTold.pending key f hBefore]
    rfl
  · intro g hg
    rw [hLength] at hg
    rw [hKnown g hg, Record.admitting_nil]
    exact hTold.unborn g hg

theorem Told.enroll (hTold : h.Told record) (hNext : h.entries.nextKey = h.office.inboxes.length)
    (hAlike : Alike h h') (hInboxes : h'.office.inboxes = h.office.inboxes ++ [({} : Inbox)])
    {f : Factory} (hPending : ∀ g, h'.pending? g = if g = h.entries.nextKey then some f
      else h.pending? g) : h'.Told record := by
  have hInbox := Factory.Office.inbox_of_append hInboxes
  constructor
  · intro t g m hMember
    rw [hAlike.members] at hMember
    rw [hInbox]
    exact hTold.members t g m hMember
  · intro g hNone
    apply hTold.silent g
    intro t k m hMember
    rw [← hAlike.members] at hMember
    exact hNone t k m hMember
  · intro key g hSome
    rw [hInbox]
    rw [hPending] at hSome
    split at hSome
    · next hKey =>
      have hNew : h.office.inboxes.length ≤ key := Nat.le_of_eq (by rw [hKey, hNext])
      rw [hTold.unborn key hNew, Factory.Office.inbox_of_le hNew]
    · exact hTold.pending key g hSome
  · intro g hg
    rw [hInboxes, List.length_append] at hg
    exact hTold.unborn g (Nat.le_of_succ_le hg)

theorem Told.start (hTold : h.Told record) (hOrderly : h.Orderly) {key : FactoryId} {f : Factory}
    (hFactory : h.pending? key = some f)
    (hMembers : ∀ t : Nat, h'.pool.member? t =
      if t = h.pool.bodies.length then some (f, .resting .start) else h.pool.member? t)
    (hInboxes : h'.office.inboxes = h.office.inboxes)
    (hPending : ∀ g, h'.pending? g = if g = key then none else h.pending? g) :
    h'.Told record := by
  have hFresh := hOrderly.fresh key f hFactory
  have hInbox := Factory.Office.inbox_congr hInboxes
  constructor
  · intro t g m hMember
    rw [hMembers] at hMember
    rw [hInbox]
    split at hMember
    · cases hMember
      obtain ⟨hMade, hEndings⟩ := hTold.silent key fun u k n hu =>
        hOrderly.apart key f u k n hFactory hu
      have hAdmitted := hTold.pending key f hFactory
      rw [hFresh]
      exact ⟨hEndings, rfl, rfl, rfl, hAdmitted.symm, hMade, rfl, nofun⟩
    · exact hTold.members t g m hMember
  · intro g hNone
    apply hTold.silent g
    intro t k m hMember
    refine hNone t k m ?_
    rw [hMembers, if_neg (Nat.ne_of_lt (member?_lt hMember))]
    exact hMember
  · intro k g hSome
    rw [hPending] at hSome
    rw [hInbox]
    split at hSome
    · cases hSome
    · exact hTold.pending k g hSome
  · intro g hg
    rw [hInboxes] at hg
    exact hTold.unborn g hg

theorem Grown.refl (inbox : Inbox) : Grown inbox inbox [] :=
  ⟨(List.append_nil _).symm, fun hClosed => ⟨hClosed, rfl⟩⟩

theorem Told.partly (hTold : h.Told record) (g : FactoryId) :
    Factory.Partial (h.office.inbox g) (record g) := by
  by_cases hMember : ∃ t f m, h.pool.member? t = some (f, m) ∧ f.id = g
  · obtain ⟨t, f, m, hMember, rfl⟩ := hMember
    exact (hTold.members t f m hMember).partly
  · exact .inl (hTold.silent g fun t f m hSome hId => hMember ⟨t, f, m, hSome, hId⟩).1

theorem Told.truthful (hTold : h.Told record) {g : FactoryId} {e : Report × Option ForgeError}
    (he : e ∈ (record g).endings) :
    Factory.Truthful (h.office.inbox g) (record g) e.1 e.2 := by
  by_cases hMember : ∃ t f m, h.pool.member? t = some (f, m) ∧ f.id = g
  · obtain ⟨t, f, m, hMember, rfl⟩ := hMember
    exact (hTold.members t f m hMember).truthful he
  · have hNone := (hTold.silent g fun t f m hSome hId => hMember ⟨t, f, m, hSome, hId⟩).2
    rw [hNone] at he
    cases he

theorem told_perform (hOrderly : h.Orderly) (hOpen : h.office.isOpen = true)
    (hTold : h.Told record) (op : Op) :
    (h.perform op).Told fun g => (record g).admitting (op.admits h g) := by
  have hKeyed := hOrderly.keyed hOpen
  cases perform_change hOrderly op with
  | enrolled f hFresh hAlike hInboxes hOpen' hPending hAdmits =>
    simp only [hAdmits, Record.admitting_nil]
    exact hTold.enroll hKeyed hAlike hInboxes hPending
  | registered f c hKnown hAlike hInboxes hOpen' hPending hAdmits =>
    rw [hKeyed] at hKnown
    apply hTold.grow hOrderly hOpen hAlike
    · rw [hInboxes, List.length_set]
    · intro g k hSome
      exact hPending g ▸ hSome
    · intro g _
      rw [Factory.Office.inbox_of_set hInboxes, hAdmits]
      by_cases hg : g = f
      · subst hg
        rw [if_pos ⟨rfl, hKnown⟩]
        simpa only [true_and] using Factory.grown_register (h.office.inbox g) c
      · rw [if_neg (fun hBoth => hg hBoth.1), if_neg (fun hBoth => hg hBoth.1.symm)]
        exact Grown.refl _
    · intro g hg
      rw [hAdmits, if_neg]
      rintro ⟨rfl, _⟩
      exact Nat.not_lt_of_le hg hKnown
  | closed f hKnown hAlike hInboxes hOpen' hPending hAdmits =>
    rw [hKeyed] at hKnown
    apply hTold.grow hOrderly hOpen hAlike
    · rw [hInboxes, List.length_set]
    · intro g k hSome
      exact hPending g ▸ hSome
    · intro g _
      rw [Factory.Office.inbox_of_set hInboxes, hAdmits]
      by_cases hg : g = f
      · subst hg
        rw [if_pos ⟨rfl, hKnown⟩]
        exact Factory.grown_close _
      · rw [if_neg (fun hBoth => hg hBoth.1)]
        exact Grown.refl _
    · intro g _
      exact hAdmits g
  | shed hAlike hInboxes hOpen' hPending hAdmits =>
    apply hTold.grow hOrderly hOpen hAlike
    · rw [hInboxes]
    · exact hPending
    · intro g _
      rw [Factory.Office.inbox_congr hInboxes, hAdmits]
      exact Grown.refl _
    · intro g _
      exact hAdmits g
  | started key f hFactory hMembers hBodies hInboxes hOpen' hPending hAdmits =>
    simp only [hAdmits, Record.admitting_nil]
    exact hTold.start hOrderly hFactory hMembers hInboxes hPending

end Hub

namespace Plant

variable {κ : Type} {compiler : Compiler κ} {first p p' : Plant κ}

namespace Run

def record (r : Run compiler first p) (i : Nat) (f : FactoryId) : Record where
  admitted := r.admitted i f
  made := madeIn f (r.sent i)
  endings := endingsIn f (r.sent i)

def made (r : Run compiler first p) (i : Nat) (f : FactoryId) : List Pipeline :=
  madeIn f (r.sent i)

theorem sent_next (r : Run compiler first p) (m : Move κ) (hMove : p.move compiler m = some p')
    (i : Nat) : (r.next m hMove).sent i = r.sent i ++
      (p.dispatched m p').filterMap fun d => if d.hub = i then some d.event else none := by
  rw [sent, dispatches, List.filterMap_append, sent]

theorem record_of_quiet (r : Run compiler first p) {m : Move κ}
    (hMove : p.move compiler m = some p') (hQuiet : p.dispatched m p' = []) (i : Nat)
    (f : FactoryId) :
    (r.next m hMove).record i f = (r.record i f).admitting (p.admitted i f m) := by
  rw [record, sent_next, hQuiet, List.filterMap_nil, List.append_nil]
  rfl

theorem record_of_idle (r : Run compiler first p) {m : Move κ}
    (hMove : p.move compiler m = some p') (hQuiet : p.dispatched m p' = [])
    (hNone : ∀ i f, p.admitted i f m = []) : (r.next m hMove).record = r.record := by
  funext i f
  rw [record_of_quiet r hMove hQuiet, hNone, Record.admitting_nil]

theorem record_of_works (r : Run compiler first p) {i j : Nat}
    (hMove : p.move compiler (.work i j) = some p') {h h' : Hub} {w' : Factory.Floor κ}
    {t : TaskId} {f f' : Factory} {mode mode' : Mode State}
    (hWorks : Works compiler p i j p' h h' w' t f mode f' mode') (k : Nat) (g : FactoryId) :
    (r.next (.work i j) hMove).record k g =
      if k = i then (r.record k g).extend g (sentIn (p.floorOf h) w') else r.record k g := by
  have hSent : (r.next (.work i j) hMove).sent k =
      r.sent k ++ if k = i then sentIn (p.floorOf h) w' else [] := by
    rw [sent_next, hWorks.dispatched, List.filterMap_map]
    by_cases hk : k = i
    · subst hk
      simp
    · simp [hk, Ne.symm hk]
  have hAdmitted : (r.next (.work i j) hMove).admitted k g = r.admitted k g := by
    rw [Run.admitted]
    exact List.append_nil _
  rw [record, hSent, hAdmitted]
  split
  · simp [Record.extend, record, madeIn, endingsIn]
  · rw [List.append_nil, record]

end Run

theorem Works.told {i j : Nat} {h h' : Hub} {w' : Factory.Floor κ} {t : TaskId} {f f' : Factory}
    {mode mode' : Mode State} (hWorks : Works compiler p i j p' h h' w' t f mode f' mode')
    (hIndex : compiler.KeepsIndex) (hCarries : p.registry.Each Carries) (hOrderly : h.Orderly)
    {record : FactoryId → Record} (hTold : h.Told record) :
    h'.Told fun g => (record g).extend g (sentIn (p.floorOf h) w') := by
  have hKnown := hOrderly.known t f mode hWorks.member
  have hSame := hWorks.passage.identity.1
  -- Nobody else has the identity of the factory that moved.
  have hOther (u : TaskId) (g : Factory) (m : Mode State) (hu : u ≠ t)
      (hMember : h.pool.member? u = some (g, m)) : g.id ≠ f.id := fun hId =>
    hu (hOrderly.distinct u t g f m mode hMember hWorks.member hId)
  have hQuiet {g : FactoryId} (hg : g ≠ f.id) :
      (record g).extend g (sentIn (p.floorOf h) w') = record g := by
    obtain ⟨hMade, hEndings⟩ := hWorks.passage.sentIn_other hg
    rw [Record.extend, hMade, hEndings, List.append_nil, List.append_nil]
  constructor
  · intro u g m hMember
    rw [hWorks.members] at hMember
    rw [hWorks.office]
    split at hMember
    · cases hMember
      rw [hSame]
      exact hWorks.passage.follows hIndex hCarries hKnown
        (hTold.members t f mode hWorks.member)
    · next hu =>
      have hg := hOther u g m hu hMember
      rw [hWorks.passage.inbox_of_ne hg, hQuiet hg]
      exact hTold.members u g m hMember
  · intro g hNone
    have hg : g ≠ f.id := by
      rintro rfl
      refine hNone t f' mode' ?_ hSame
      rw [hWorks.members, if_pos rfl]
    rw [hQuiet hg]
    apply hTold.silent g
    intro u k m hMember
    by_cases hu : u = t
    · subst hu
      rw [hWorks.member] at hMember
      cases hMember
      exact hg.symm
    · refine hNone u k m ?_
      rw [hWorks.members, if_neg hu]
      exact hMember
  · intro key g hSome
    have hBefore : h.pending? key = some g := by
      rw [Hub.pending?, Hub.entry?, hWorks.entries] at hSome
      exact hSome
    have hg : key ≠ f.id := fun hKey =>
      hOrderly.apart key g t f mode hBefore hWorks.member hKey.symm
    rw [hWorks.office, hWorks.passage.inbox_of_ne hg, hQuiet hg]
    exact hTold.pending key g hBefore
  · intro g hg
    rw [hWorks.office, hWorks.passage.length_inboxes] at hg
    exact hTold.unborn g hg

/-- What the records of all factories tell about a plant. -/
structure Told (p : Plant κ) (record : Nat → FactoryId → Record) : Prop where
  carries : p.registry.Each Carries
  hubs : ∀ i h, p.hub? i = some h → h.Told (record i)
  absent : ∀ i, p.hub? i = none → ∀ f, (record i f).made = [] ∧ (record i f).endings = []

theorem told_founded (limit : Option Nat) (k : κ) (settings : List HubSettings) :
    (founded limit k settings).Told fun _ _ => ⟨[], [], []⟩ := by
  constructor
  · intro c hc
    cases hc
  · intro i h hHub
    obtain ⟨s, rfl⟩ := founded_hub hHub
    exact Hub.told_initial s
  · intro i _ f
    exact ⟨rfl, rfl⟩

theorem Told.of_hubs {record : Nat → FactoryId → Record} (h : p.Told record)
    (hHub : ∀ i, p'.hub? i = p.hub? i) (hCarries : p'.registry.Each Carries) :
    p'.Told record := by
  constructor
  · exact hCarries
  · intro i g hSome
    rw [hHub] at hSome
    exact h.hubs i g hSome
  · intro i hNone
    rw [hHub] at hNone
    exact h.absent i hNone

theorem Run.told (hIndex : compiler.KeepsIndex) (hCaches : compiler.LeavesCaches)
    {limit : Option Nat} {k : κ} {settings : List HubSettings}
    (r : Run compiler (founded limit k settings) p) : p.Told r.record := by
  induction r with
  | start => exact told_founded limit k settings
  | @next p p' r m hMove ih =>
    have hOrderly := r.orderly
    cases m with
    | own i op =>
      obtain ⟨h, hHub, hOpen, rfl⟩ := move_own hMove
      have hRecord (j : Nat) (f : FactoryId) := r.record_of_quiet hMove rfl j f
      constructor
      · exact ih.carries
      · intro j g hSome
        rw [hub?_setHub p hHub] at hSome
        simp only [funext (hRecord j)]
        split at hSome
        · next hj =>
          subst hj
          cases hSome
          have hAdmitted (f : FactoryId) : p.admitted j f (.own j op) = op.admits h f := by
            simp only [Plant.admitted, hHub, if_true]
          simp only [hAdmitted]
          exact Hub.told_perform (hOrderly j h hHub) hOpen (ih.hubs j h hHub) op
        · next hj =>
          have hAdmitted (f : FactoryId) : p.admitted j f (.own i op) = [] := by
            simp only [Plant.admitted, hHub]
            rw [if_neg (Ne.symm hj)]
          simp only [hAdmitted, Record.admitting_nil]
          exact ih.hubs j g hSome
      · intro j hNone f
        rw [hub?_setHub p hHub] at hNone
        split at hNone
        · cases hNone
        · rw [hRecord]
          exact ih.absent j hNone f
    | work i j =>
      obtain ⟨h, h', w', t, f, mode, f', mode', hWorks⟩ := step_works hOrderly.sound hMove
      have hRecord (l : Nat) (g : FactoryId) := r.record_of_works hMove hWorks l g
      have hTold := ih.hubs i h hWorks.hub
      constructor
      · rw [hWorks.after]
        exact hWorks.passage.carries hCaches ih.carries (hTold.members t f mode hWorks.member)
      · intro l g hSome
        rw [hWorks.hub?] at hSome
        simp only [funext (hRecord l)]
        split at hSome
        · next hl =>
          subst hl
          cases hSome
          simp only [if_true]
          exact hWorks.told hIndex ih.carries (hOrderly l h hWorks.hub) hTold
        · next hl =>
          simp only [if_neg hl]
          exact ih.hubs l g hSome
      · intro l hNone g
        rw [hWorks.hub?] at hNone
        split at hNone
        · cases hNone
        · next hl =>
          rw [hRecord, if_neg hl]
          exact ih.absent l hNone g
    | compiler k =>
      have hSame := r.record_of_idle hMove rfl fun _ _ => rfl
      rw [hSame]
      cases hMove
      exact ih.of_hubs (fun _ => rfl) ih.carries
    | destroy i =>
      have hSame := r.record_of_idle hMove rfl fun _ _ => rfl
      rw [hSame]
      cases hMove
      exact ih.of_hubs (fun _ => rfl) ih.carries.destroy

theorem Run.mem_endings (r : Run compiler first p) {i : Nat} {f : FactoryId} {report : Report}
    {failure : Option ForgeError} {cache : Option CacheId}
    (hEnded : Event.ended f report failure cache ∈ r.sent i) :
    (report, failure) ∈ (r.record i f).endings := by
  apply List.mem_filterMap.mpr
  exact ⟨_, hEnded, if_pos rfl⟩

theorem Run.partly (hIndex : compiler.KeepsIndex) (hCaches : compiler.LeavesCaches)
    {limit : Option Nat} {k : κ} {settings : List HubSettings}
    (r : Run compiler (founded limit k settings) p) (i : Nat) (f : FactoryId) :
    ∃ inbox, Factory.Partial inbox (r.record i f) := by
  have hTold := r.told hIndex hCaches
  cases hHub : p.hub? i with
  | none => exact ⟨{}, .inl (hTold.absent i hHub f).1⟩
  | some h => exact ⟨_, (hTold.hubs i h hHub).partly f⟩

theorem Run.truthful (hIndex : compiler.KeepsIndex) (hCaches : compiler.LeavesCaches)
    {limit : Option Nat} {k : κ} {settings : List HubSettings}
    (r : Run compiler (founded limit k settings) p) {i : Nat} {f : FactoryId} {report : Report}
    {failure : Option ForgeError} {cache : Option CacheId}
    (hEnded : Event.ended f report failure cache ∈ r.sent i) :
    ∃ inbox, Factory.Truthful inbox (r.record i f) report failure := by
  have hTold := r.told hIndex hCaches
  have hMem := r.mem_endings hEnded
  cases hHub : p.hub? i with
  | none =>
    rw [(hTold.absent i hHub f).2] at hMem
    cases hMem
  | some h => exact ⟨_, (hTold.hubs i h hHub).truthful hMem⟩

/-- A factory whose axes fit into an index sends the first pipelines of the enumeration, in
order, and as many as it reports; all of them if it succeeds, and those before the refused one if
the compiler refused one. -/
theorem handed_off_in_order (hIndex : compiler.KeepsIndex) (hCaches : compiler.LeavesCaches)
    {limit : Option Nat} {k : κ} {settings : List HubSettings}
    (r : Run compiler (founded limit k settings) p) (i : Nat) (f : FactoryId) {packing : Packing}
    (hPacking : Packing.ofSpans ((r.admitted i f).map Characteristic.span) = .ok packing) :
    ((r.made i f).map fun q => .ok q.index) = packing.indices.take (r.made i f).length ∧
    ∀ report failure cache, Event.ended f report failure cache ∈ r.sent i →
      report.pipelines = (r.made i f).length ∧
      (failure = none → (r.made i f).length = (packing.spans.map Span.size).prod) ∧
      ∀ index reason, failure = some (.creationFailed index reason) →
        State.generate ∈ report.states → packing.indices[report.pipelines]? = some (.ok index) := by
  -- There is one packing of the axes only.
  have hSplit {inbox : Inbox} {packing' : Packing}
      {rest : List (Except (Trouble Violation) CompositeIndex)}
      (hListed : Factory.Listed inbox (r.record i f) packing' rest) :
      packing.indices = ((r.made i f).map fun q => .ok q.index) ++ rest := by
    have hSame : packing' = packing := Except.ok.inj (hListed.packed.symm.trans hPacking)
    rw [← hSame, hListed.split]
    rfl
  constructor
  · obtain ⟨inbox, hMade | ⟨packing', rest, hListed⟩⟩ := r.partly hIndex hCaches i f
    · have hNone : r.made i f = [] := hMade
      rw [hNone]
      rfl
    · rw [hSplit hListed, List.take_left' (List.length_map _)]
  · intro report failure cache hEnded
    obtain ⟨inbox, hCount, hCause⟩ := r.truthful hIndex hCaches hEnded
    have hCount : report.pipelines = (r.made i f).length := hCount
    refine ⟨hCount, ?_⟩
    rcases hCause with ⟨_, hFailure, hEarly⟩ | ⟨packing', rest, hListed, hDone, hHead⟩
    · exact ⟨fun hNone => absurd hNone hFailure, fun _ _ _ hStates => absurd hStates hEarly⟩
    · constructor
      · intro hNone
        rw [← packing.length_indices, hSplit hListed, hDone hNone, List.append_nil,
          List.length_map]
      · intro index reason hFailure _
        rw [hSplit hListed, hCount,
          List.getElem?_append_right (Nat.le_of_eq (List.length_map _)), List.length_map,
          Nat.sub_self, ← List.head?_eq_getElem?]
        exact hHead index reason hFailure

/-- A run in which a factory makes the two pipelines of one axis. -/
def pairRun : (p : Plant Device) × Run Device.compiler (founded none {} [{}]) p :=
  Run.start.along
    ([.own 0 .createSlot,
      .own 0 (.createFactory "lit" "main" 0),
      .own 0 (.register 0 (.ofSetup "program" fun _ => Standard.setupProgram "program" [] 7 [])),
      .own 0 (.register 0 (.ofFill "samples" ⟨3, 5, by decide⟩ (Standard.fillConstant 1 0))),
      .own 0 (.closeInbox 0),
      .own 0 (.start 0)] ++ List.replicate 42 (.work 0 0))

/-- A run up to the second of 2⁶⁴ combinations, which the log does not ask to count. -/
def brimfulRun :
    (p : Plant Device) × Run Device.compiler (founded none {} [{ log := .upTo .info }]) p :=
  Run.start.along
    ([.own 0 .createSlot,
      .own 0 (.createFactory "lit" "main" 0),
      .own 0 (.register 0 (.ofSetup "program" fun _ => Standard.setupProgram "program" [] 7 []))] ++
      (["a", "b", "c", "d"].map fun name =>
        .own 0 (.register 0 (.ofFill name ⟨0, 65536, by decide⟩ (Standard.fillConstant 1 0)))) ++
      [.own 0 (.closeInbox 0), .own 0 (.start 0)] ++ List.replicate 34 (.work 0 0))

theorem handed_off_in_order_pair :
    (∃ packing : Packing,
      Packing.ofSpans ((pairRun.2.admitted 0 0).map Characteristic.span) = .ok packing ∧
      ((pairRun.2.made 0 0).map fun q => .ok q.index) = packing.indices.take 2 ∧
      (packing.spans.map Span.size).prod = 2 ∧
      ∃ report cache, Event.ended 0 report none cache ∈ pairRun.2.sent 0 ∧
        report.pipelines = 2) ∧
    ∃ packing : Packing,
      Packing.ofSpans ((brimfulRun.2.admitted 0 0).map Characteristic.span) = .ok packing ∧
      (packing.spans.map Span.size).prod = 2 ^ 64 ∧
      ((brimfulRun.2.made 0 0).map fun q => .ok q.index) = packing.indices.take 2 := by
  have hPacking : Packing.ofSpans ((pairRun.2.admitted 0 0).map Characteristic.span) =
      .ok ⟨[.single, ⟨3, 5, by decide⟩], by decide⟩ := by
    rfl
  have hTwo : (pairRun.2.made 0 0).length = 2 := by decide +kernel
  obtain ⟨hPrefix, hEnded⟩ :=
    handed_off_in_order Device.keepsIndex Device.leavesCaches pairRun.2 0 0 hPacking
  have hSent : Event.ended 0 ⟨[.start, .setUp, .settled, .generate, .done], 2, 0, 2⟩ none (some 0) ∈
      pairRun.2.sent 0 := by decide +kernel
  obtain ⟨hCount, hAll, _⟩ := hEnded _ _ _ hSent
  rw [hTwo] at hPrefix hAll hCount
  have hBrimful : Packing.ofSpans ((brimfulRun.2.admitted 0 0).map Characteristic.span) =
      .ok ⟨.single :: List.replicate 4 ⟨0, 65536, by decide⟩, by decide +kernel⟩ := by
    rfl
  have hPrefix' :=
    (handed_off_in_order Device.keepsIndex Device.leavesCaches brimfulRun.2 0 0 hBrimful).1
  rw [show (brimfulRun.2.made 0 0).length = 2 by decide +kernel] at hPrefix'
  exact ⟨⟨_, hPacking, hPrefix, (hAll rfl).symm, _, _, hSent, hCount⟩, _, hBrimful,
    by decide +kernel, hPrefix'⟩

end Plant

end PipelineForge
