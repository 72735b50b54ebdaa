import PipelineForge.Proofs.Compiler.Conduct
import PipelineForge.Proofs.Factory.Turns
import PipelineForge.Proofs.Tasks.Modes

/-!
# Passages of factories

What one step of a pool can do to a factory: it makes a turn, or it enters a state, is told its
outcome, reports its end, or signs off. Whatever it does, it keeps its identity and touches only
its own inbox, its own booking, the registry, the compiler and the end of the list of events.
-/

namespace PipelineForge.Factory

open Tasks (Mode Outcome Reply Shift)

variable {κ : Type}

def reported (f : Factory) : Factory := { f with report := {}, cache := none, point := .signingOff }

inductive Passage (compiler : Compiler κ) (hub : Nat) (w : Floor κ) (f : Factory) :
    Mode State → Floor κ → Factory → Mode State → Prop where
  | still (mode : Mode State) : Passage compiler hub w f mode w f mode
  | entered (s : State) : Passage compiler hub w f (.resting s) w (f.enter s) .working
  | stopped (s : State) : Passage compiler hub w f (.resting s) w f (.ended .aborted)
  | turned {w' : Floor κ} {f' : Factory} {reply : Reply State}
      (hTurn : Turn compiler hub w f w' f' reply) :
      Passage compiler hub w f .working w' f' reply.mode
  | told (outcome : Outcome) :
      Passage compiler hub w f (.ended outcome) w (f.leave outcome) .leaving
  | reported (failure : Option ForgeError) (hPoint : f.point = .reporting failure) :
      Passage compiler hub w f .leaving
        { w with office := w.office.send (.ended f.id f.report failure f.cache) } f.reported
        .leaving
  | signedOff (hPoint : ∀ failure, f.point ≠ .reporting failure) :
      Passage compiler hub w f .leaving { w with office := w.office.release f.ticket }
        { f with ticket := none, point := .resting } .left

variable {compiler : Compiler κ} {hub : Nat} {w w' : Floor κ} {f f' : Factory}
  {mode mode' : Mode State}

theorem passage_of_shift (h : Shift (behaviour compiler hub) w f mode w' f' mode') :
    Passage compiler hub w f mode w' f' mode' := by
  cases h with
  | still => exact .still mode
  | entered s => exact .entered s
  | stopped s => exact .stopped s
  | worked hWork hHeld => exact .turned (work_cases hWork hHeld)
  | told outcome => exact .told outcome
  | parting hPart =>
    simp only [behaviour, part] at hPart
    split at hPart
    · next failure hPoint =>
      cases hPart
      exact .reported failure hPoint
    · cases hPart
  | parted hPart =>
    simp only [behaviour, part] at hPart
    split at hPart
    · cases hPart
    · next hPoint =>
      cases hPart
      exact .signedOff hPoint
  | lost text hPart =>
    simp only [behaviour, part] at hPart
    split at hPart
    · cases hPart
    · cases hPart

namespace Office

theorem inbox_setInbox (o : Office) (g : FactoryId) (i : Inbox) (k : FactoryId) :
    (o.setInbox g i).inbox k =
      if k = g ∧ g < o.inboxes.length then i else o.inbox k := by
  simp only [inbox, setInbox, List.getD_eq_getElem?_getD, List.getElem?_set]
  by_cases hSame : g = k
  · subst hSame
    by_cases hKnown : g < o.inboxes.length
    · simp [hKnown]
    · simp [hKnown]
  · simp [hSame, Ne.symm hSame]

theorem inbox_setInbox_of_ne (o : Office) {g k : FactoryId} (i : Inbox) (h : k ≠ g) :
    (o.setInbox g i).inbox k = o.inbox k := by
  rw [inbox_setInbox, if_neg (fun hBoth => h hBoth.1)]

theorem inbox_setInbox_self {o : Office} {g : FactoryId} (i : Inbox) (h : g < o.inboxes.length) :
    (o.setInbox g i).inbox g = i := by rw [inbox_setInbox, if_pos ⟨rfl, h⟩]

theorem setInbox_inbox (o : Office) (f : FactoryId) : o.setInbox f (o.inbox f) = o := by
  have hSame : o.inboxes.set f (o.inboxes.getD f {}) = o.inboxes := by
    by_cases hf : f < o.inboxes.length
    · rw [List.getD_eq_getElem?_getD, List.getElem?_eq_getElem hf, Option.getD_some,
        List.set_getElem_self]
    · exact List.set_eq_of_length_le (Nat.le_of_not_lt hf)
  exact congrArg (fun inboxes => { o with inboxes }) hSame

theorem inbox_of_le {o : Office} {g : FactoryId} (h : o.inboxes.length ≤ g) : o.inbox g = {} := by
  rw [inbox, List.getD_eq_getElem?_getD, List.getElem?_eq_none h, Option.getD_none]

@[simp] theorem inbox_send (o : Office) (e : Event) (g : FactoryId) :
    (o.send e).inbox g = o.inbox g := by
  rw [send]
  split <;> rfl

@[simp] theorem inboxes_send (o : Office) (e : Event) : (o.send e).inboxes = o.inboxes := by
  rw [send]
  split <;> rfl

@[simp] theorem isOpen_send (o : Office) (e : Event) : (o.send e).isOpen = o.isOpen := by
  rw [send]
  split <;> rfl

@[simp] theorem bookings_send (o : Office) (e : Event) : (o.send e).bookings = o.bookings := by
  rw [send]
  split <;> rfl

@[simp] theorem inbox_release (o : Office) (t : Option Tasks.Ticket) (g : FactoryId) :
    (o.release t).inbox g = o.inbox g := by cases t <;> rfl

@[simp] theorem inboxes_release (o : Office) (t : Option Tasks.Ticket) :
    (o.release t).inboxes = o.inboxes := by cases t <;> rfl

@[simp] theorem isOpen_release (o : Office) (t : Option Tasks.Ticket) :
    (o.release t).isOpen = o.isOpen := by cases t <;> rfl

@[simp] theorem events_release (o : Office) (t : Option Tasks.Ticket) :
    (o.release t).events = o.events := by cases t <;> rfl

end Office

def sentIn (w w' : Floor κ) : List Event := w'.office.events.drop w.office.events.length

theorem sentIn_of_events (hEvents : w'.office.events = w.office.events) : sentIn w w' = [] := by
  rw [sentIn, hEvents, List.drop_length]

theorem events_send {o : Office} (hOpen : o.isOpen = true) (e : Event) :
    (o.send e).events = o.events ++ [e] := by rw [Office.send, if_pos hOpen]

theorem sentIn_send (hOpen : w.office.isOpen = true) {e : Event}
    (hOffice : w'.office = w.office.send e) : sentIn w w' = [e] := by
  rw [sentIn, hOffice, events_send hOpen, List.drop_left]

theorem sentIn_closed (hClosed : w.office.isOpen = false) {e : Event}
    (hOffice : w'.office = w.office.send e) : sentIn w w' = [] := by
  apply sentIn_of_events
  rw [hOffice, Office.send, hClosed]
  rfl

theorem Turn.quiet_or_sent {reply : Reply State} (h : Turn compiler hub w f w' f' reply) :
    sentIn w w' = [] ∨ ∃ p, f.point = .handingOff p ∧ w.office.isOpen = true ∧
      w' = { w with office := w.office.send (.made f.id f.slot p) } ∧ f' = f.delivered ∧
      reply = .step (.yield .generate) := by
  cases h with
  | sent p hPoint hOpen => exact .inr ⟨p, hPoint, hOpen, rfl, rfl, rfl⟩
  | _ => exact .inl (sentIn_of_events rfl)

theorem Turn.identity {reply : Reply State} (h : Turn compiler hub w f w' f' reply) :
    f'.id = f.id ∧ f'.slot = f.slot ∧ f'.ticket = f.ticket := by
  cases h <;> exact ⟨rfl, rfl, rfl⟩

theorem Turn.bookings {reply : Reply State} (h : Turn compiler hub w f w' f' reply) :
    w'.office.bookings = w.office.bookings := by
  cases h with
  | sent p hPoint hOpen => exact Office.bookings_send _ _
  | _ => rfl

theorem Passage.identity (h : Passage compiler hub w f mode w' f' mode') :
    f'.id = f.id ∧ f'.slot = f.slot := by
  cases h with
  | turned hTurn => exact ⟨hTurn.identity.1, hTurn.identity.2.1⟩
  | _ => exact ⟨rfl, rfl⟩

theorem Passage.isOpen (h : Passage compiler hub w f mode w' f' mode') :
    w'.office.isOpen = w.office.isOpen := by
  cases h with
  | turned hTurn =>
    cases hTurn with
    | sent p hPoint hOpen => exact Office.isOpen_send _ _
    | _ => rfl
  | reported failure hPoint => exact Office.isOpen_send _ _
  | signedOff hPoint => exact Office.isOpen_release _ _
  | _ => rfl

theorem Passage.length_inboxes (h : Passage compiler hub w f mode w' f' mode') :
    w'.office.inboxes.length = w.office.inboxes.length := by
  cases h with
  | turned hTurn =>
    cases hTurn with
    | equipped hPoint hState hSetup => exact List.length_set
    | unequipped e hPoint hState hSetup => exact List.length_set
    | broken x hPoint hState hSetup => exact List.length_set
    | sent p hPoint hOpen => exact congrArg List.length (Office.inboxes_send _ _)
    | _ => rfl
  | reported failure hPoint => exact congrArg List.length (Office.inboxes_send _ _)
  | signedOff hPoint => exact congrArg List.length (Office.inboxes_release _ _)
  | _ => rfl

theorem Passage.inbox_of_ne (h : Passage compiler hub w f mode w' f' mode') {g : FactoryId}
    (hg : g ≠ f.id) : w'.office.inbox g = w.office.inbox g := by
  cases h with
  | turned hTurn =>
    cases hTurn with
    | equipped hPoint hState hSetup => exact Office.inbox_setInbox_of_ne _ _ hg
    | unequipped e hPoint hState hSetup => exact Office.inbox_setInbox_of_ne _ _ hg
    | broken x hPoint hState hSetup => exact Office.inbox_setInbox_of_ne _ _ hg
    | sent p hPoint hOpen => exact Office.inbox_send _ _ g
    | _ => rfl
  | reported failure hPoint => exact Office.inbox_send _ _ g
  | signedOff hPoint => exact Office.inbox_release _ _ g
  | _ => rfl

theorem Passage.bookings (h : Passage compiler hub w f mode w' f' mode') :
    (w'.office.bookings = w.office.bookings ∧ f'.ticket = f.ticket) ∨
      (w'.office.bookings = (w.office.release f.ticket).bookings ∧ f'.ticket = none) := by
  cases h with
  | turned hTurn => exact .inl ⟨hTurn.bookings, hTurn.identity.2.2⟩
  | reported failure hPoint => exact .inl ⟨Office.bookings_send _ _, rfl⟩
  | signedOff hPoint => exact .inr ⟨rfl, rfl⟩
  | _ => exact .inl ⟨rfl, rfl⟩

theorem Office.prefix_send (o : Office) (e : Event) : o.events <+: (o.send e).events := by
  rw [send]
  split
  · exact List.prefix_append _ _
  · exact List.prefix_rfl

theorem Passage.events (h : Passage compiler hub w f mode w' f' mode') :
    w'.office.events = w.office.events ++ sentIn w w' := by
  have hPrefix : w.office.events <+: w'.office.events := by
    cases h with
    | turned hTurn =>
      cases hTurn with
      | sent p hPoint hOpen => exact Office.prefix_send _ _
      | _ => exact List.prefix_rfl
    | reported failure hPoint => exact Office.prefix_send _ _
    | signedOff hPoint => exact (Office.events_release _ _).symm ▸ List.prefix_rfl
    | _ => exact List.prefix_rfl
  exact (List.prefix_iff_eq_append.mp hPrefix).symm

theorem Passage.keepsEvents (h : Passage compiler hub w f mode w' f' mode') {e : Event}
    (he : e ∈ w.office.events) : e ∈ w'.office.events := by
  rw [h.events]
  exact List.mem_append_left _ he

theorem mode_ne_leaving (reply : Reply State) : reply.mode ≠ .leaving := by
  cases reply with
  | step s => cases s <;> exact nofun
  | _ => exact nofun

theorem Passage.reports (h : Passage compiler hub w f mode w' f' mode')
    (hOpen : w.office.isOpen = true)
    (hUntold : mode = .leaving → ∃ failure, f.point = .reporting failure) :
    (f'.ticket = f.ticket ∧ (mode' = .leaving → ∃ failure, f'.point = .reporting failure)) ∨
      ∃ report failure cache, Event.ended f.id report failure cache ∈ w'.office.events := by
  cases h with
  | still => exact .inl ⟨rfl, hUntold⟩
  | entered s => exact .inl ⟨rfl, nofun⟩
  | stopped s => exact .inl ⟨rfl, nofun⟩
  | turned hTurn =>
    exact .inl ⟨hTurn.identity.2.2, fun hMode => absurd hMode (mode_ne_leaving _)⟩
  | told outcome => exact .inl ⟨rfl, fun _ => ⟨_, rfl⟩⟩
  | reported failure hPoint =>
    refine .inr ⟨f.report, failure, f.cache, ?_⟩
    rw [events_send hOpen]
    exact List.mem_append_right _ (List.mem_singleton_self _)
  | signedOff hPoint =>
    obtain ⟨failure, hReporting⟩ := hUntold rfl
    exact absurd hReporting (hPoint failure)

/-- A passage sends nothing, or the pipeline in hand, or the end of the factory. -/
theorem Passage.sentIn_cases (h : Passage compiler hub w f mode w' f' mode') :
    sentIn w w' = [] ∨
    (∃ p, f.point = .handingOff p ∧ mode = .working ∧ sentIn w w' = [.made f.id f.slot p]) ∨
    ∃ failure, f.point = .reporting failure ∧ mode = .leaving ∧ f' = f.reported ∧
      mode' = .leaving ∧ sentIn w w' = [.ended f.id f.report failure f.cache] := by
  cases h with
  | turned hTurn =>
    rcases hTurn.quiet_or_sent with hNone | ⟨p, hPoint, hOpen, rfl, _, _⟩
    · exact .inl hNone
    · exact .inr (.inl ⟨p, hPoint, rfl, sentIn_send hOpen rfl⟩)
  | reported failure hPoint =>
    cases hOpen : w.office.isOpen with
    | false => exact .inl (sentIn_closed hOpen rfl)
    | true => exact .inr (.inr ⟨failure, hPoint, rfl, rfl, rfl, sentIn_send hOpen rfl⟩)
  | signedOff hPoint => exact .inl (sentIn_of_events (Office.events_release _ _))
  | _ => exact .inl (sentIn_of_events rfl)

/-- What a passage does to the registry if compiling leaves it alone. -/
inductive Handles (f : Factory) (mode : Mode State) (r r' : Registry) : Prop where
  | same (hSame : r' = r)
  | looked (id : CacheId) (key : CacheKey) (hLookup : r' = (r.lookup id key).1)
  | acquired (name : String) (id : CacheId) (hAcquire : r.acquire name = .ok (r', id))
  | stored (id : CacheId) (key : CacheKey) (p : Pipeline) (hMode : mode = .working)
      (hPoint : f.point = .storing key p) (hStore : r' = (r.store id key p).1)

theorem Passage.handles (h : Passage compiler hub w f mode w' f' mode')
    (hCaches : compiler.LeavesCaches) : Handles f mode w.registry w'.registry := by
  cases h with
  | turned hTurn =>
    cases hTurn with
    | hit plan o id registry p hPoint hState hPlan hShown hOrder hCache hLookup =>
      exact .looked id o.key (by rw [hLookup])
    | missed plan o id registry hPoint hState hPlan hShown hOrder hCache hLookup =>
      exact .looked id o.key (by rw [hLookup])
    | acquired registry id hPoint hAcquire => exact .acquired f.cacheName id hAcquire
    | built ticket o k registry p hPoint hAnswer => exact .same (hCaches.eq hAnswer)
    | refused ticket o k registry causes hPoint hAnswer => exact .same (hCaches.eq hAnswer)
    | crashed ticket o k registry text hPoint hAnswer => exact .same (hCaches.eq hAnswer)
    | stored key p id registry hPoint hCache hStore =>
      exact .stored id key p rfl hPoint (by rw [hStore])
    | outrun key p kept id registry hPoint hCache hStore =>
      exact .stored id key p rfl hPoint (by rw [hStore])
    | _ => exact .same rfl
  | _ => exact .same rfl

end PipelineForge.Factory
