import ContainerBuild.Proofs.Path.Joining
import ContainerBuild.Proofs.Text.Lossy

/-!
# Paths that are shown and read back

A path that is text is shown as this text and read back as it was. Any other path is read back as a
path with other components: its segments are shown one by one, those that stand for nothing stay as
they are, and a segment that is no text turns into one that is.

* `Path.IsText` — the path is spelled by a text.
* `Path.segments_ofString_display` — a path is shown segment by segment.
* `Path.same_display_iff` — a path is read back as it was exactly if it is text.
* `Path.isText_join_iff` — a text that is joined to a path gives a text exactly if the path is one.
-/

namespace ContainerBuild.Path

/-- The path is spelled by a text. -/
def IsText (p : Path) : Prop := ∃ s, p = ofString s

/-- Bytes that were shown and are read back. -/
def readBack (bytes : Bytes) : Bytes := Utf8.encode (Utf8.decodeLossy bytes)

theorem readBack_encode (s : String) : readBack (Utf8.encode s) = Utf8.encode s :=
  congrArg Utf8.encode (Utf8.decodeLossy_encode s)

/-- A path is text exactly if its bytes are read back as they were. -/
theorem isText_iff (p : Path) : p.IsText ↔ readBack p.bytes = p.bytes := by
  constructor
  · rintro ⟨s, rfl⟩
    exact readBack_encode s
  · exact fun h => ⟨p.display, congrArg Path.mk h.symm⟩

/-! ### Segments -/

theorem encode_slash : Utf8.encode "/" = [slash] := by decide

theorem readBack_append_slash (before after : Bytes) :
    readBack (before ++ slash :: after) = readBack before ++ slash :: readBack after := by
  show Utf8.encode (Utf8.decodeLossy (before ++ 0x2F :: after)) = _
  rw [Utf8.decodeLossy_append_slash, Utf8.encode_append, Utf8.encode_append, encode_slash,
    List.append_assoc]
  rfl

theorem readBack_intercalate (segments : List Bytes) :
    readBack ([slash].intercalate segments) = [slash].intercalate (segments.map readBack) := by
  induction segments with
  | nil => rfl
  | cons segment rest ih =>
    cases rest with
    | nil => simp
    | cons segment' rest =>
      rw [List.map_cons, List.map_cons, List.intercalate_cons_cons, List.intercalate_cons_cons,
        List.append_assoc, List.singleton_append, readBack_append_slash, ih, List.append_assoc,
        List.singleton_append, List.map_cons]

theorem slash_notMem_readBack {segment : Bytes} (h : slash ∉ segment) :
    slash ∉ readBack segment := by
  intro hmem
  have hshown := (Utf8.mem_encode_iff (a := '/') (by decide) _).1 hmem
  exact h (Utf8.slash_mem_of_decodeLossy hshown)

/-- A path is shown segment by segment. -/
theorem segments_ofString_display (p : Path) :
    (ofString p.display).segments = p.segments.map readBack := by
  have hbytes : (ofString p.display).bytes = [slash].intercalate (p.segments.map readBack) := by
    rw [← readBack_intercalate, ← bytes_eq_intercalate]
    rfl
  rw [segments, hbytes, List.splitOn_intercalate]
  · intro segment hsegment
    obtain ⟨original, horiginal, rfl⟩ := List.mem_map.1 hsegment
    exact slash_notMem_readBack (slash_notMem_of_mem_segments horiginal)
  · simp [segments]

/-! ### Components -/

theorem bytes_of_component? {segment : Bytes} {c : Component} (h : component? segment = some c) :
    c.bytes = segment := by
  unfold component? at h
  split_ifs at h with hidle hdots
  · cases h
    exact hdots.symm
  · cases h
    rfl

/-- A segment that stands for nothing is read back as it was. -/
theorem readBack_of_component?_eq_none {segment : Bytes} (h : component? segment = none) :
    readBack segment = segment := by
  unfold component? at h
  split_ifs at h with hidle
  rcases hidle with rfl | rfl <;> decide

theorem length_body_readBack_le (segments : List Bytes) :
    (body (segments.map readBack)).length ≤ (body segments).length := by
  induction segments with
  | nil => exact Nat.le_refl _
  | cons segment rest ih =>
    simp only [body, List.map_cons, List.filterMap_cons] at ih ⊢
    cases h : component? segment with
    | none => simpa [readBack_of_component?_eq_none h, h] using ih
    | some c =>
      cases component? (readBack segment) with
      | none => exact Nat.le_succ_of_le ih
      | some c' => exact Nat.succ_le_succ ih

/-- If the segments stand for the same after they were read back, then each is read back as it
was. -/
theorem readBack_of_body_eq {segments : List Bytes}
    (h : body (segments.map readBack) = body segments) :
    ∀ segment ∈ segments, readBack segment = segment := by
  induction segments with
  | nil => nofun
  | cons segment rest ih =>
    have hlength := length_body_readBack_le rest
    simp only [body, List.map_cons, List.filterMap_cons] at h ih hlength
    rw [List.forall_mem_cons]
    cases hc : component? segment with
    | none =>
      have hsame := readBack_of_component?_eq_none hc
      simp only [hsame, hc] at h
      exact ⟨hsame, ih h⟩
    | some c =>
      simp only [hc] at h
      cases hc' : component? (readBack segment) with
      | none =>
        -- no segment behind it makes up for a component that is lost
        simp only [hc'] at h
        rw [h] at hlength
        exact absurd hlength (by simp)
      | some c' =>
        simp only [hc', List.cons.injEq] at h
        obtain ⟨rfl, hrest⟩ := h
        exact ⟨(bytes_of_component? hc').symm.trans (bytes_of_component? hc), ih hrest⟩

/-- A path is read back with the components it has exactly if it is text. -/
theorem same_display_iff (p : Path) : (ofString p.display).same p = true ↔ p.IsText := by
  constructor
  · intro hsame
    -- the same components are read from as many segments, so each segment is read back
    have hcomponents : (ofString p.display).components = p.components := by simpa [same] using hsame
    have hbody : body (p.segments.map readBack) = body p.segments := by
      rw [← segments_ofString_display]
      show (ofString p.display).inner = p.inner
      rw [inner_eq_filter, inner_eq_filter, hcomponents]
    have hfixed : p.segments.map readBack = p.segments :=
      (List.map_congr_left (readBack_of_body_eq hbody)).trans (List.map_id' _)
    rw [isText_iff, bytes_eq_intercalate, readBack_intercalate, hfixed]
  · rintro ⟨s, rfl⟩
    have hdisplay : (ofString s).display = s := Utf8.decodeLossy_encode s
    rw [hdisplay]
    simp [same]

/-! ### Joins -/

/-- A text that is joined to a path gives a text exactly if the path is one. -/
theorem isText_join_iff (p : Path) {s : String} (hs : (ofString s).isAbsolute = false) :
    (p.join (ofString s)).IsText ↔ p.IsText := by
  rw [isText_iff, isText_iff, join_eq p hs]
  rcases p.stem_cases with ⟨hbytes, hstem⟩ | ⟨before, hstem, hbytes⟩
  · rw [hbytes, hstem]
    exact iff_of_true (readBack_encode s) rfl
  · -- behind the slash stands a text, so only what is in front of it counts
    have hjoin (after : Bytes) (hafter : readBack after = after) :
        readBack (before ++ slash :: after) = before ++ slash :: after ↔
          readBack before = before := by
      rw [readBack_append_slash, hafter]
      exact List.append_left_inj _
    rw [hstem, List.append_assoc, List.singleton_append]
    rcases hbytes with ⟨hbytes, -⟩ | hbytes
    · rw [hbytes]
      exact hjoin _ (readBack_encode s)
    · rw [hbytes]
      exact (hjoin _ (readBack_encode s)).trans (hjoin [] rfl).symm

end ContainerBuild.Path
