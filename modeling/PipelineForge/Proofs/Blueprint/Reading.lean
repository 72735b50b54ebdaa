import PipelineForge.Blueprint.Edit
import PipelineForge.Blueprint.Fingerprint

/-!
# Reading tokens back

The tokens that a blueprint is digested from name every field, but not where a list ends that
comes without its length. So they determine the blueprint if the lengths of these lists are known,
and not otherwise. How tokens are mixed to one word is left out.
-/

namespace PipelineForge

theorem toList_loop {bytes : ByteArray} {front back : List UInt8}
    (h : bytes.data.toList = front ++ back) :
    ByteArray.toList.loop bytes front.length front.reverse = bytes.data.toList := by
  have hSize : bytes.size = front.length + back.length := by
    rw [← List.length_append, ← h]
    rfl
  induction back generalizing front with
  | nil =>
    rw [ByteArray.toList.loop, if_neg (by simp [hSize]), List.reverse_reverse, h, List.append_nil]
  | cons byte back ih =>
    have hPlace : front.length < bytes.size := by simp [hSize]
    have hByte : bytes.get! front.length = byte := by
      refine (getElem!_pos bytes.data front.length hPlace).trans ?_
      rw [← Array.getElem_toList]
      simp [h]
    have hNext := @ih (front ++ [byte]) (by simpa using h) (by simp [hSize]; omega)
    rw [ByteArray.toList.loop, if_pos hPlace, hByte]
    simpa using hNext

theorem toList_bytes (bytes : ByteArray) : bytes.toList = bytes.data.toList :=
  toList_loop (List.nil_append _).symm

theorem toUTF8_toList_inj {s t : String} (h : s.toUTF8.toList = t.toUTF8.toList) : s = t := by
  rw [toList_bytes, toList_bytes] at h
  exact String.toByteArray_inj.mp (ByteArray.ext (Array.toList_inj.mp h))

namespace Blueprint

open Digest (Token)

def Readable {α : Type} (f : α → List Token) : Prop :=
  ∀ a b s t, f a ++ s = f b ++ t → a = b ∧ s = t

theorem readable_of_length {α : Type} {f : α → List Token} (n : Nat)
    (hLength : ∀ a, (f a).length = n) (hInjective : ∀ a b, f a = f b → a = b) : Readable f := by
  intro a b s t h
  obtain ⟨hFirst, hRest⟩ := List.append_inj h ((hLength a).trans (hLength b).symm)
  exact ⟨hInjective a b hFirst, hRest⟩

theorem Readable.list {α : Type} {f : α → List Token} (hf : Readable f) {l m : List α}
    {s t : List Token} (hLength : l.length = m.length)
    (h : l.flatMap f ++ s = m.flatMap f ++ t) : l = m ∧ s = t := by
  induction l generalizing m with
  | nil =>
    obtain rfl := List.length_eq_zero_iff.mp hLength.symm
    exact ⟨rfl, h⟩
  | cons a l ih =>
    cases m with
    | nil => cases hLength
    | cons b m =>
      rw [List.flatMap_cons, List.flatMap_cons, List.append_assoc, List.append_assoc] at h
      obtain ⟨rfl, hRest⟩ := hf a b _ _ h
      obtain ⟨rfl, hEnd⟩ := ih (Nat.succ.inj hLength) hRest
      exact ⟨rfl, hEnd⟩

@[simp] theorem u32_inj {v w : UInt32} : u32 v = u32 w ↔ v = w := by
  rw [u32, u32, Token.word.injEq, UInt32.toUInt64_inj]

@[simp] theorem i32_inj {v w : Int32} : i32 v = i32 w ↔ v = w := by
  simp only [i32, Token.word.injEq, UInt32.toUInt64_inj]
  constructor
  · intro h
    exact Int32.toBitVec_inj.mp (congrArg UInt32.toBitVec h)
  · exact congrArg Int32.toUInt32

@[simp] theorem flag_inj {v w : Bool} : flag v = flag w ↔ v = w := by
  cases v <;> cases w <;> decide

theorem littleEndianBytes_inj {v w : UInt32} (h : littleEndianBytes v = littleEndianBytes w) :
    v = w := by
  simp only [littleEndianBytes, List.cons.injEq, and_true] at h
  obtain ⟨h0, h1, h2, h3⟩ := h
  have hBytes (n m : UInt32) (hByte : n.toUInt8 = m.toUInt8) : n.toNat % 256 = m.toNat % 256 :=
    congrArg UInt8.toNat hByte
  have h0 := hBytes _ _ h0
  have h1 := hBytes _ _ h1
  have h2 := hBytes _ _ h2
  have h3 := hBytes _ _ h3
  simp only [UInt32.toNat_shiftRight, UInt32.reduceToNat, Nat.reduceMod,
    Nat.shiftRight_eq_div_pow] at h1 h2 h3
  have hv := v.toNat_lt
  have hw := w.toNat_lt
  apply UInt32.toNat_inj.mp
  omega

theorem readable_stage : Readable stageTokens := by
  refine readable_of_length 4 (fun _ => rfl) ?_
  rintro ⟨stage, shader, entry⟩ ⟨stage', shader', entry'⟩ h
  simp only [stageTokens, textTokens, List.cons.injEq, u32_inj, Token.word.injEq,
    Token.bytes.injEq, List.append_left_inj, and_true] at h
  obtain ⟨rfl, rfl, _, hEntry⟩ := h
  rw [toUTF8_toList_inj hEntry]

theorem readable_constant : Readable constantTokens := by
  refine readable_of_length 3 (fun _ => rfl) ?_
  rintro ⟨⟨stage, id⟩, value⟩ ⟨⟨stage', id'⟩, value'⟩ h
  simpa [constantTokens, and_assoc] using h

theorem readable_binding : Readable bindingTokens := by
  refine readable_of_length 3 (fun _ => rfl) ?_
  rintro ⟨⟩ ⟨⟩ h
  simpa [bindingTokens] using h

theorem readable_attribute : Readable attributeTokens := by
  refine readable_of_length 4 (fun _ => rfl) ?_
  rintro ⟨⟩ ⟨⟩ h
  simpa [attributeTokens] using h

theorem readable_blend : Readable blendTokens := by
  refine readable_of_length 8 (fun _ => rfl) ?_
  rintro ⟨⟩ ⟨⟩ h
  simpa [blendTokens] using h

theorem readable_push : Readable pushTokens := by
  refine readable_of_length 3 (fun _ => rfl) ?_
  rintro ⟨⟩ ⟨⟩ h
  simpa [pushTokens] using h

theorem readable_i32 : Readable fun v => [i32 v] := by
  refine readable_of_length 1 (fun _ => rfl) ?_
  intro v w h
  simpa using h

theorem readable_quad : Readable quadTokens := by
  refine readable_of_length 2 (fun _ => rfl) ?_
  rintro ⟨r, g, b, a⟩ ⟨r', g', b', a'⟩ h
  have hBytes : [r, g, b, a].flatMap littleEndianBytes =
      [r', g', b', a'].flatMap littleEndianBytes := by
    simpa [quadTokens] using h
  simp only [List.flatMap_cons, List.flatMap_nil, List.append_nil] at hBytes
  obtain ⟨hr, hBytes⟩ := List.append_inj hBytes rfl
  obtain ⟨hg, hBytes⟩ := List.append_inj hBytes rfl
  obtain ⟨hb, ha⟩ := List.append_inj hBytes rfl
  rw [littleEndianBytes_inj hr, littleEndianBytes_inj hg, littleEndianBytes_inj hb,
    littleEndianBytes_inj ha]

/-- The tokens between the constants and the blend constants: four lists without their lengths,
and words of fixed places between them. -/
def stateTokens (b : Blueprint) : List Token :=
  b.bindings.flatMap bindingTokens ++ (b.attributes.flatMap attributeTokens ++
    ([i32 b.topology, i32 b.polygonMode, u32 b.cullMode, i32 b.frontFace, u32 b.lineWidth,
      u32 b.samples] ++
    (b.colorFormats.flatMap (fun v => [i32 v]) ++
    ([i32 b.depthFormat, i32 b.stencilFormat, flag b.depthTest, flag b.depthWrite,
      i32 b.depthCompare] ++
    b.blendStates.flatMap blendTokens))))

def interfaceTokens (b : Blueprint) : List Token :=
  b.dynamicStates.flatMap (fun v => [i32 v]) ++ b.pushRanges.flatMap pushTokens

def laterTokens (b : Blueprint) : List Token :=
  count b.constants.entries.length :: (b.constants.entries.flatMap constantTokens ++
    (b.stateTokens ++ (quadTokens b.blendConstants ++ (b.interfaceTokens ++ [.word b.layout]))))

theorem tokens_eq (b : Blueprint) :
    b.tokens = count b.stages.length :: (b.stages.flatMap stageTokens ++ b.laterTokens) := by
  simp [tokens, laterTokens, stateTokens, interfaceTokens, List.map_eq_flatMap, List.append_assoc]

/-- The lengths of the lists whose lengths are no tokens. -/
structure Extents where
  bindings : Nat
  attributes : Nat
  colorFormats : Nat
  blendStates : Nat
  dynamicStates : Nat
  pushRanges : Nat
deriving DecidableEq

def extents (b : Blueprint) : Extents where
  bindings := b.bindings.length
  attributes := b.attributes.length
  colorFormats := b.colorFormats.length
  blendStates := b.blendStates.length
  dynamicStates := b.dynamicStates.length
  pushRanges := b.pushRanges.length

theorem length_stateTokens (b : Blueprint) :
    b.stateTokens.length = b.bindings.length * 3 + b.attributes.length * 4 +
      b.colorFormats.length + b.blendStates.length * 8 + 11 := by
  simp [stateTokens, List.length_flatMap, List.map_const', bindingTokens, attributeTokens,
    blendTokens]
  omega

theorem length_interfaceTokens (b : Blueprint) :
    b.interfaceTokens.length = b.dynamicStates.length + b.pushRanges.length * 3 := by
  simp [interfaceTokens, List.length_flatMap, List.map_const', pushTokens]

def isBytes : Token → Bool
  | .bytes _ => true
  | .word _ => false

@[simp] theorem isBytes_word (w : UInt64) : isBytes (.word w) = false := rfl

@[simp] theorem isBytes_bytes (bs : List UInt8) : isBytes (.bytes bs) = true := rfl

@[simp] theorem isBytes_u32 (w : UInt32) : isBytes (u32 w) = false := rfl

@[simp] theorem isBytes_i32 (v : Int32) : isBytes (i32 v) = false := rfl

@[simp] theorem isBytes_flag (v : Bool) : isBytes (flag v) = false := rfl

@[simp] theorem isBytes_count (n : Nat) : isBytes (count n) = false := rfl

theorem countP_stateTokens (b : Blueprint) : b.stateTokens.countP isBytes = 0 := by
  simp [stateTokens, List.countP_flatMap, Function.comp_def, List.map_const', bindingTokens,
    attributeTokens, blendTokens]

theorem countP_interfaceTokens (b : Blueprint) : b.interfaceTokens.countP isBytes = 0 := by
  simp [interfaceTokens, List.countP_flatMap, Function.comp_def, List.map_const', pushTokens]

/-- The entry points and the blend constants are the only byte strings. -/
theorem countP_tokens (b : Blueprint) : b.tokens.countP isBytes = b.stages.length + 1 := by
  rw [tokens_eq, laterTokens]
  simp [List.countP_flatMap, List.countP_cons, Function.comp_def, List.map_const',
    countP_stateTokens, countP_interfaceTokens, stageTokens, textTokens, constantTokens, quadTokens]

theorem length_tokens (b : Blueprint) :
    b.tokens.length = b.stages.length * 4 + b.constants.entries.length * 3 +
      b.stateTokens.length + b.interfaceTokens.length + 5 := by
  rw [tokens_eq, laterTokens]
  simp [List.length_flatMap, List.map_const', stageTokens, textTokens, constantTokens, quadTokens]
  omega

theorem append_bytes_inj {front front' s t : List Token} {p q : List UInt8}
    (hFront : front.countP isBytes = 0) (hFront' : front'.countP isBytes = 0)
    (h : front ++ .bytes p :: s = front' ++ .bytes q :: t) : front = front' ∧ p = q ∧ s = t := by
  have hTake (ts : List Token) (hWords : ts.countP isBytes = 0) (bs : List UInt8)
      (rest : List Token) : (ts ++ .bytes bs :: rest).takeWhile (! isBytes ·) = ts := by
    rw [List.countP_eq_zero] at hWords
    rw [List.takeWhile_append_of_pos (by simpa using hWords), List.takeWhile_cons_of_neg (by simp),
      List.append_nil]
  obtain rfl : front = front' := by
    rw [← hTake front hFront p s, h, hTake front' hFront' q t]
  obtain ⟨hBytes, hRest⟩ := List.cons.inj (List.append_cancel_left h)
  exact ⟨rfl, Token.bytes.inj hBytes, hRest⟩

theorem stages_of_tokens {a b : Blueprint} (h : a.tokens = b.tokens) :
    a.stages = b.stages ∧ a.laterTokens = b.laterTokens := by
  have hStages : a.stages.length = b.stages.length := by
    have hCount := congrArg (List.countP isBytes) h
    rw [countP_tokens, countP_tokens] at hCount
    exact Nat.succ.inj hCount
  rw [tokens_eq, tokens_eq] at h
  exact readable_stage.list hStages (List.cons.inj h).2

/-- The blend constants are the only byte string among the later tokens, and part them in two. -/
theorem later_of_tokens {a b : Blueprint} (h : a.laterTokens = b.laterTokens)
    (hConstants : a.constants.entries.length = b.constants.entries.length) :
    a.constants = b.constants ∧ a.stateTokens = b.stateTokens ∧
      a.blendConstants = b.blendConstants ∧ a.interfaceTokens = b.interfaceTokens ∧
      a.layout = b.layout := by
  obtain ⟨hEntries, h⟩ := readable_constant.list hConstants (List.cons.inj h).2
  have hTable : a.constants = b.constants := by
    generalize a.constants = s, b.constants = t at hEntries
    cases s
    cases t
    cases hEntries
    rfl
  have hWords (c : Blueprint) : (c.stateTokens ++ [count 4]).countP isBytes = 0 := by
    simp [countP_stateTokens]
  have hParted (c : Blueprint) (rest : List Token) :
      c.stateTokens ++ (quadTokens c.blendConstants ++ rest) =
        (c.stateTokens ++ [count 4]) ++ .bytes ([c.blendConstants.r, c.blendConstants.g,
          c.blendConstants.b, c.blendConstants.a].flatMap littleEndianBytes) :: rest := by
    simp [quadTokens]
  rw [hParted, hParted] at h
  obtain ⟨hState, hBytes, h⟩ := append_bytes_inj (hWords a) (hWords b) h
  have hQuad : quadTokens a.blendConstants ++ [] = quadTokens b.blendConstants ++ [] := by
    rw [quadTokens, hBytes, quadTokens]
  obtain ⟨hInterface, hLayout⟩ := List.append_inj' h rfl
  exact ⟨hTable, List.append_cancel_right hState, (readable_quad _ _ _ _ hQuad).1, hInterface,
    by simpa using hLayout⟩

theorem count_inj {n m : Nat} (hn : n < UInt64.size) (hm : m < UInt64.size)
    (h : count n = count m) : n = m := by
  have hNat := congrArg UInt64.toNat (Token.word.inj h)
  rw [UInt64.toNat_ofNat', UInt64.toNat_ofNat'] at hNat
  rwa [Nat.mod_eq_of_lt hn, Nat.mod_eq_of_lt hm] at hNat

theorem tokens_of_parts {a b : Blueprint} (hStages : a.stages = b.stages)
    (hConstants : a.constants = b.constants) (hState : a.stateTokens = b.stateTokens)
    (hBlend : a.blendConstants = b.blendConstants)
    (hInterface : a.interfaceTokens = b.interfaceTokens) (hLayout : a.layout = b.layout) :
    a.tokens = b.tokens := by
  rw [tokens_eq, tokens_eq, laterTokens, laterTokens, hStages, hConstants, hState, hBlend,
    hInterface, hLayout]

theorem state_of_tokens {a b : Blueprint} (h : a.stateTokens = b.stateTokens)
    (hExtents : a.extents = b.extents) :
    a.bindings = b.bindings ∧ a.attributes = b.attributes ∧ a.topology = b.topology ∧
      a.polygonMode = b.polygonMode ∧ a.cullMode = b.cullMode ∧ a.frontFace = b.frontFace ∧
      a.lineWidth = b.lineWidth ∧ a.samples = b.samples ∧ a.colorFormats = b.colorFormats ∧
      a.depthFormat = b.depthFormat ∧ a.stencilFormat = b.stencilFormat ∧
      a.depthTest = b.depthTest ∧ a.depthWrite = b.depthWrite ∧ a.depthCompare = b.depthCompare ∧
      a.blendStates = b.blendStates := by
  obtain ⟨hBindings, hAttributes, hColors, hBlends, _, _⟩ := Extents.mk.inj hExtents
  obtain ⟨hBindings, h⟩ := readable_binding.list hBindings h
  obtain ⟨hAttributes, h⟩ := readable_attribute.list hAttributes h
  obtain ⟨hRaster, h⟩ := List.append_inj h rfl
  obtain ⟨hColors, h⟩ := readable_i32.list hColors h
  obtain ⟨hDepth, h⟩ := List.append_inj h rfl
  obtain ⟨hBlends, _⟩ := readable_blend.list (s := []) (t := []) hBlends (by simpa using h)
  simp only [List.cons.injEq, u32_inj, i32_inj, flag_inj, and_true] at hRaster hDepth
  obtain ⟨hTopology, hPolygon, hCull, hFront, hLine, hSamples⟩ := hRaster
  obtain ⟨hDepthFormat, hStencil, hTest, hWrite, hCompare⟩ := hDepth
  exact ⟨hBindings, hAttributes, hTopology, hPolygon, hCull, hFront, hLine, hSamples, hColors,
    hDepthFormat, hStencil, hTest, hWrite, hCompare, hBlends⟩

theorem interface_of_tokens {a b : Blueprint} (h : a.interfaceTokens = b.interfaceTokens)
    (hExtents : a.extents = b.extents) :
    a.dynamicStates = b.dynamicStates ∧ a.pushRanges = b.pushRanges := by
  obtain ⟨_, _, _, _, hDynamic, hPush⟩ := Extents.mk.inj hExtents
  obtain ⟨hDynamic, h⟩ := readable_i32.list hDynamic h
  obtain ⟨hPush, _⟩ := readable_push.list (s := []) (t := []) hPush (by simpa using h)
  exact ⟨hDynamic, hPush⟩

theorem constants_length_of_tokens {a b : Blueprint} (h : a.tokens = b.tokens)
    (hExtents : a.extents = b.extents) :
    a.constants.entries.length = b.constants.entries.length := by
  have hCount := congrArg (List.countP isBytes) h
  have hLength := congrArg List.length h
  obtain ⟨hBindings, hAttributes, hColors, hBlends, hDynamic, hPush⟩ := Extents.mk.inj hExtents
  rw [countP_tokens, countP_tokens] at hCount
  rw [length_tokens, length_tokens, length_stateTokens, length_stateTokens, length_interfaceTokens,
    length_interfaceTokens] at hLength
  omega

theorem eq_of_tokens {a b : Blueprint} (h : a.tokens = b.tokens)
    (hExtents : a.extents = b.extents) : a = b := by
  obtain ⟨hStages, hLater⟩ := stages_of_tokens h
  obtain ⟨hConstants, hState, hQuad, hInterface, hLayout⟩ :=
    later_of_tokens hLater (constants_length_of_tokens h hExtents)
  obtain ⟨hBindings, hAttributes, hTopology, hPolygon, hCull, hFront, hLine, hSamples, hColors,
    hDepthFormat, hStencil, hTest, hWrite, hCompare, hBlends⟩ := state_of_tokens hState hExtents
  obtain ⟨hDynamic, hPush⟩ := interface_of_tokens hInterface hExtents
  cases a
  cases b
  simp only [mk.injEq]
  exact ⟨hStages, hConstants, hBindings, hAttributes, hTopology, hPolygon, hCull, hFront, hLine,
    hSamples, hColors, hDepthFormat, hStencil, hTest, hWrite, hCompare, hBlends, hQuad, hDynamic,
    hPush, hLayout⟩

/-- Tokens determine a blueprint exactly up to the places where its lists without a length end: the
stages, the constants, the blend constants and the layout in any case, and all else together with
the lengths of these lists. -/
theorem tokens_eq_iff (a b : Blueprint) :
    (a.tokens = b.tokens ∧ a.extents = b.extents ↔ a = b) ∧
    (a.constants.entries.length < UInt64.size → b.constants.entries.length < UInt64.size →
      (a.tokens = b.tokens ↔
        a.stages = b.stages ∧ a.constants = b.constants ∧ a.stateTokens = b.stateTokens ∧
          a.blendConstants = b.blendConstants ∧ a.interfaceTokens = b.interfaceTokens ∧
          a.layout = b.layout)) := by
  refine ⟨⟨?_, ?_⟩, fun ha hb => ⟨?_, ?_⟩⟩
  · rintro ⟨hTokens, hExtents⟩
    exact eq_of_tokens hTokens hExtents
  · rintro rfl
    exact ⟨rfl, rfl⟩
  · intro h
    obtain ⟨hStages, hLater⟩ := stages_of_tokens h
    exact ⟨hStages, later_of_tokens hLater (count_inj ha hb (List.cons.inj hLater).1)⟩
  · rintro ⟨hStages, hConstants, hState, hBlend, hInterface, hLayout⟩
    exact tokens_of_parts hStages hConstants hState hBlend hInterface hLayout

def byStates : Blueprint := { dynamicStates := [1, 0, 4] }

def byRange : Blueprint := { dynamicStates := [], pushRanges := [⟨1, 0, 4⟩] }

/-- The two blueprints differ by the lengths of their lists only. -/
theorem tokens_eq_iff_words :
    byStates.tokens = byRange.tokens ∧ byStates.extents ≠ byRange.extents ∧ byStates ≠ byRange := by
  obtain ⟨hLengths, hParts⟩ := tokens_eq_iff byStates byRange
  have hTokens : byStates.tokens = byRange.tokens :=
    (hParts (by decide) (by decide)).mpr (by decide)
  have hExtents : byStates.extents ≠ byRange.extents := by decide
  exact ⟨hTokens, hExtents, fun h => hExtents (hLengths.mpr h).2⟩

/-- Three dynamic states have the tokens of one push range with the same three words. -/
theorem tokens_ambiguous :
    ({} : Blueprint).applyAll [.dynamicStates [1, 0, 4]] = (byStates, none) ∧
    ({} : Blueprint).applyAll [.dynamicStates [], .push ⟨1, 0, 4⟩] = (byRange, none) ∧
    byStates.tokens = byRange.tokens ∧ byStates.fingerprint = byRange.fingerprint ∧
    byStates ≠ byRange := by
  have hTokens : byStates.tokens = byRange.tokens := by decide
  exact ⟨rfl, rfl, hTokens, congrArg Digest.ofTokens hTokens, by decide⟩

end Blueprint

end PipelineForge
