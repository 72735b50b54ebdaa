import PipelineForge.Proofs.Factory.Passages

/-!
# Inboxes of factories

What reaches an inbox is a sequence of posts: registrations and the end of the registration. A
factory only empties its own inbox. If axes with different names are posted and the end after
them, the inbox admits all of them, however often it is emptied in between. Who posts is left out.
-/

namespace PipelineForge

open Tasks (Mode)

namespace Factory

inductive Post where
  | register (c : Characteristic)
  | close

def Post.axis? : Post → Option Characteristic
  | register c => some c
  | close => none

def Inbox.accept (i : Inbox) : Post → Inbox
  | .register c => (i.register c).1
  | .close => i.close

def postings (cs : List Characteristic) : List Post := cs.map .register ++ [.close]

/-- An inbox that admitted all axes of some posts; what was taken out of it comes first. -/
structure Inbox.Took (inbox : Inbox) (taken : List Characteristic) (posts : List Post) :
    Prop where
  content : taken ++ inbox.pending = posts.filterMap Post.axis?
  names : inbox.names = (posts.filterMap Post.axis?).map Characteristic.name
  closed : inbox.closed = true ↔ .close ∈ posts
  failed : inbox.failed = none

theorem took_empty : ({} : Inbox).Took [] [] :=
  ⟨rfl, rfl, ⟨nofun, nofun⟩, rfl⟩

section Posts

variable {inbox : Inbox} {taken cs : List Characteristic} {posts more : List Post}

theorem axes_postings (cs : List Characteristic) : (postings cs).filterMap Post.axis? = cs := by
  rw [postings, List.filterMap_append, List.filterMap_map]
  simp [Function.comp_def, Post.axis?]

theorem axes_isPrefix (h : posts <+: postings cs) : posts.filterMap Post.axis? <+: cs := by
  have hAxes := h.filterMap Post.axis?
  rwa [axes_postings] at hAxes

theorem eq_postings (h : posts <+: postings cs) (hClose : .close ∈ posts) :
    posts = postings cs := by
  rcases List.prefix_concat_iff.mp h with hAll | hPart
  · exact hAll
  · obtain ⟨c, _, hSame⟩ := List.mem_map.mp (hPart.subset hClose)
    cases hSame

theorem Inbox.Took.isPrefix (h : inbox.Took taken posts) (hPosts : posts <+: postings cs) :
    taken ++ inbox.pending <+: cs := h.content ▸ axes_isPrefix hPosts

theorem Inbox.Took.all (h : inbox.Took taken posts) (hPosts : posts <+: postings cs)
    (hClosed : inbox.closed = true) : taken ++ inbox.pending = cs := by
  rw [h.content, eq_postings hPosts (h.closed.mp hClosed), axes_postings]

theorem Inbox.Took.takeAll (h : inbox.Took taken posts) :
    inbox.takeAll.1.Took (taken ++ inbox.pending) posts :=
  ⟨(List.append_nil _).trans h.content, h.names, h.closed, h.failed⟩

theorem Inbox.Took.register (h : inbox.Took taken posts) {c : Characteristic}
    (hOpen : .close ∉ posts) (hNew : c.name ∉ inbox.names) :
    (inbox.register c).1.Took taken (posts ++ [.register c]) := by
  have hAxes : (posts ++ [Post.register c]).filterMap Post.axis? =
      posts.filterMap Post.axis? ++ [c] := List.filterMap_append
  rw [Inbox.register, if_neg (mt h.closed.mp hOpen), if_neg hNew]
  constructor
  · rw [hAxes, ← h.content, List.append_assoc]
  · rw [hAxes, List.map_append, ← h.names]
    rfl
  · rw [show Inbox.closed _ = inbox.closed from rfl, h.closed]
    simp
  · exact h.failed

theorem Inbox.Took.close (h : inbox.Took taken posts) :
    inbox.close.Took taken (posts ++ [.close]) := by
  have hAxes : (posts ++ [Post.close]).filterMap Post.axis? = posts.filterMap Post.axis? := by
    rw [List.filterMap_append]
    exact List.append_nil _
  constructor
  · rw [hAxes]
    exact h.content
  · rw [hAxes]
    exact h.names
  · exact ⟨fun _ => List.mem_append_right _ (List.mem_singleton_self _), fun _ => rfl⟩
  · exact h.failed

theorem Inbox.Took.accept (h : inbox.Took taken posts)
    (hNames : (cs.map Characteristic.name).Nodup) {post : Post}
    (hPosts : posts ++ [post] <+: postings cs) :
    (inbox.accept post).Took taken (posts ++ [post]) := by
  cases post with
  | close => exact h.close
  | register c =>
    have hBefore : posts <+: postings cs := (List.prefix_append _ _).trans hPosts
    apply h.register
    · intro hClose
      -- Posts with the end among them are all there are, and leave no place for one more.
      have hAll := hPosts.length_le
      rw [← eq_postings hBefore hClose, List.length_append] at hAll
      exact absurd hAll (Nat.not_succ_le_self _)
    · rw [h.names]
      have hAxes := (axes_isPrefix hPosts).map Characteristic.name
      have hDistinct := hNames.sublist hAxes.sublist
      rw [List.filterMap_append, List.map_append] at hDistinct
      exact fun hMem => (List.nodup_append.mp hDistinct).2.2 c.name hMem c.name
        (List.mem_singleton_self _) rfl

theorem Inbox.Took.acceptAll (h : inbox.Took taken posts)
    (hNames : (cs.map Characteristic.name).Nodup) (hPosts : posts ++ more <+: postings cs) :
    (more.foldl Inbox.accept inbox).Took taken (posts ++ more) := by
  induction more generalizing inbox posts with
  | nil =>
    rw [List.append_nil]
    exact h
  | cons post more ih =>
    rw [List.append_cons] at hPosts ⊢
    exact ih (h.accept hNames ((List.prefix_append _ _).trans hPosts)) hPosts

end Posts

section Passages

variable {κ : Type} {compiler : Compiler κ} {hub : Nat} {w w' : Floor κ} {f f' : Factory}
  {mode mode' : Mode State}

theorem Passage.inbox_cases (h : Passage compiler hub w f mode w' f' mode') (g : FactoryId) :
    w'.office.inbox g = w.office.inbox g ∨ w'.office.inbox g = (w.office.inbox g).takeAll.1 := by
  have hEmptied : (emptied w f).office.inbox g = w.office.inbox g ∨
      (emptied w f).office.inbox g = (w.office.inbox g).takeAll.1 := by
    rw [emptied, Office.inbox_setInbox]
    split
    · next hOwn =>
      rw [hOwn.1]
      exact .inr rfl
    · exact .inl rfl
  cases h with
  | turned hTurn =>
    cases hTurn with
    | equipped hPoint hState hSetup => exact hEmptied
    | unequipped e hPoint hState hSetup => exact hEmptied
    | broken x hPoint hState hSetup => exact hEmptied
    | sent p hPoint hOpen => exact .inl (Office.inbox_send _ _ g)
    | _ => exact .inl rfl
  | reported failure hPoint => exact .inl (Office.inbox_send _ _ g)
  | signedOff hPoint => exact .inl (Office.inbox_release _ _ g)
  | _ => exact .inl rfl

end Passages

end Factory

end PipelineForge
