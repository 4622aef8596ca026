import AutomationTool.Desktop.SmartEditDocument
import AutomationTool.Editing.TimelineRequest

/-!
# The timeline that the host saves

`timelineDocument` is the body of the save request that the host builds from a worker's
result, in one loop over the paragraphs. The control plane has a builder of its own,
`createLocalEditingTimeline`.

* `timeline_document`: what the control plane reads of the host's document is the cut that
  its own builder makes of the draft, so that no constructor refuses it.
-/
namespace AutomationTool.Desktop

open Editing Executor.SmartEdit Protocol

/-! ## The document -/

/-- `format!("{:04}", sequence)`. -/
def suffix (p : VideoWorkerSmartEditParagraph) : List Char := padded p.sequence

def visualDocument (startMs : Nat) (p : VideoWorkerSmartEditParagraph) : Json :=
  .obj [("clipId", .str ("visual-".toList ++ suffix p)),
    ("startMs", .ofNat startMs),
    ("durationMs", .ofNat p.durationMs),
    ("sourceMaterialId", .str p.visualMaterialId),
    ("sourceInMs", .ofOption .ofNat p.visualSourceInMs),
    ("sourceOutMs", .ofOption .ofNat p.visualSourceOutMs),
    ("text", .null),
    ("gainDb", .null),
    ("transitionIn", .null),
    ("originalAudioMode", .null)]

def audioDocument (startMs : Nat) (p : VideoWorkerSmartEditParagraph) : Json :=
  .obj [("clipId", .str
      (if p.kind = .narrated then "narration-".toList ++ suffix p else "ambient-".toList ++ suffix p)),
    ("startMs", .ofNat startMs),
    ("durationMs", .ofNat p.durationMs),
    ("sourceMaterialId", .str p.audioMaterialId),
    ("sourceInMs", .ofOption .ofNat (if p.kind = .narrated then some 0 else p.visualSourceInMs)),
    ("sourceOutMs", .ofOption .ofNat
      (if p.kind = .narrated then some p.durationMs else p.visualSourceOutMs)),
    ("text", .null),
    ("gainDb", .float 0),
    ("transitionIn", .null),
    ("originalAudioMode", if p.kind = .originalSpeech then .str "auto_duck".toList else .null)]

def captionDocument (startMs : Nat) (p : VideoWorkerSmartEditParagraph) : Json :=
  .obj [("clipId", .str ("caption-".toList ++ suffix p)),
    ("startMs", .ofNat startMs),
    ("durationMs", .ofNat p.durationMs),
    ("sourceMaterialId", .null),
    ("sourceInMs", .null),
    ("sourceOutMs", .null),
    ("text", .str p.captionText),
    ("gainDb", .null),
    ("transitionIn", .null),
    ("originalAudioMode", .null)]

/-- What the loop over the paragraphs has collected. -/
structure LaneDocuments where
  startMs : Nat
  visual : List Json
  narration : List Json
  ambient : List Json
  caption : List Json

/-- One turn of the loop. -/
def LaneDocuments.push (lanes : LaneDocuments) (p : VideoWorkerSmartEditParagraph) :
    LaneDocuments where
  startMs := lanes.startMs + p.durationMs
  visual := lanes.visual ++ [visualDocument lanes.startMs p]
  narration :=
    if p.kind = .narrated then lanes.narration ++ [audioDocument lanes.startMs p] else lanes.narration
  ambient :=
    if p.kind = .narrated then lanes.ambient else lanes.ambient ++ [audioDocument lanes.startMs p]
  caption := lanes.caption ++ [captionDocument lanes.startMs p]

def trackDocument (trackId kind : String) (clips : List Json) : Json :=
  .obj [("trackId", .str trackId.toList), ("kind", .str kind.toList), ("clips", .arr clips)]

/-- mirrors local_video_orchestrator.rs:674-767 -/
def VideoWorkerSmartEditResult.timelineDocument (r : VideoWorkerSmartEditResult) : Json :=
  let lanes := r.draft.paragraphs.foldl LaneDocuments.push ⟨0, [], [], [], []⟩
  let narration :=
    if lanes.narration = [] then [] else [trackDocument "narration" "narration" lanes.narration]
  let ambient := if lanes.ambient = [] then [] else [trackDocument "ambient" "ambient" lanes.ambient]
  .obj [("durationMs", .ofNat r.draft.durationMs),
    ("tracks", .arr ([trackDocument "visual" "visual" lanes.visual] ++ narration ++ ambient ++
      [trackDocument "caption" "caption" lanes.caption]))]

/-! ## What the control plane reads of a clip -/

theorem option?_read {α : Type} {read : Json → Option α} {write : α → Json} {x : Option α}
    (hnull : ∀ a, write a ≠ .null) (h : ∀ a ∈ x, read (write a) = some a) :
    Json.option? read (.ofOption write x) = some x :=
  Json.option?_ofOption (fun a _ => hnull a) h

theorem between?_ofNat {low high n : Nat} (hlow : low ≤ n) (hhigh : n ≤ high) :
    between? low high (.ofNat n) = some n := if_pos ⟨hlow, hhigh⟩

/-- The document of a clip, in the words of the model that the control plane reads. -/
def clipDocument (m : EditingTimelineClip) : Json :=
  .obj [("clipId", .str m.clipId),
    ("startMs", .ofNat m.startMs),
    ("durationMs", .ofNat m.durationMs),
    ("sourceMaterialId", .ofOption .str m.sourceMaterialId),
    ("sourceInMs", .ofOption .ofNat m.sourceInMs),
    ("sourceOutMs", .ofOption .ofNat m.sourceOutMs),
    ("text", .ofOption .str m.text),
    ("gainDb", .ofOption .float m.gainDb),
    ("transitionIn", .null),
    ("originalAudioMode", .ofOption (fun mode => .str (OriginalAudioMode.value mode))
      m.originalAudioMode)]

/-- The values of the model are within its bounds. -/
structure Bounded (m : EditingTimelineClip) : Prop where
  clipId : localIdPattern m.clipId = true
  start_le : m.startMs ≤ maxTimelineDurationMs
  duration_pos : 1 ≤ m.durationMs
  duration_le : m.durationMs ≤ maxTimelineDurationMs
  sourceIn : ∀ n ∈ m.sourceInMs, n ≤ maxMaterialDurationMs
  sourceOut : ∀ n ∈ m.sourceOutMs, n ≤ maxMaterialDurationMs
  text : ∀ text ∈ m.text, text.length ≤ maxClipTextCharacters
  gain : ∀ gain ∈ m.gainDb, minGainDb ≤ gain ∧ gain ≤ maxGainDb
  transition : m.transitionIn = none

theorem length_localId {value : List Char} (h : localIdPattern value = true) :
    1 ≤ value.length ∧ value.length ≤ 64 := by
  cases value with
  | nil => cases h
  | cons c cs =>
    simp only [localIdPattern, decide_eq_true_eq] at h
    have hle := h.2.1
    simp only [List.length_cons]
    omega

theorem ofJson_clip {m : EditingTimelineClip} (h : Bounded m) :
    EditingTimelineClip.ofJson (clipDocument m) = some m := by
  have hid : text? 1 64 (.str m.clipId) = some m.clipId := if_pos (length_localId h.clipId)
  have hstart := between?_ofNat (Nat.zero_le m.startMs) h.start_le
  have hduration := between?_ofNat h.duration_pos h.duration_le
  have hin : Json.option? (between? 0 maxMaterialDurationMs) (.ofOption .ofNat m.sourceInMs) =
      some m.sourceInMs :=
    option?_read (fun _ h => nomatch h) fun n hn => between?_ofNat n.zero_le (h.sourceIn n hn)
  have hout : Json.option? (between? 0 maxMaterialDurationMs) (.ofOption .ofNat m.sourceOutMs) =
      some m.sourceOutMs :=
    option?_read (fun _ h => nomatch h) fun n hn => between?_ofNat n.zero_le (h.sourceOut n hn)
  have htext : Json.option? (text? 0 maxClipTextCharacters) (.ofOption .str m.text) = some m.text :=
    option?_read (fun _ h => nomatch h) fun text htext =>
      if_pos ⟨Nat.zero_le _, h.text text htext⟩
  have hgain : Json.option? gain? (.ofOption .float m.gainDb) = some m.gainDb :=
    option?_read (fun _ h => nomatch h) fun gain hgain => if_pos (h.gain gain hgain)
  have hmode : Json.option? audioMode?
      (.ofOption (fun mode => .str (OriginalAudioMode.value mode)) m.originalAudioMode) =
        some m.originalAudioMode :=
    option?_read (fun _ h => nomatch h) fun mode _ => audioMode?_value mode
  have htransition : Json.option? EditingTimelineTransition.ofJson .null = some m.transitionIn := by
    rw [h.transition]
    rfl
  have hfields : Json.fields ["clipId", "startMs", "durationMs", "sourceMaterialId", "sourceInMs",
    "sourceOutMs", "text", "gainDb", "transitionIn", "originalAudioMode"] (clipDocument m) =
      some _ := rfl
  unfold EditingTimelineClip.ofJson
  rw [hfields]
  simp [Json.required, Json.optional, hid, hstart, hduration, hin, hout, htext, hgain, hmode,
    htransition]

/-! ## The clips of a paragraph -/

theorem parseText_hyphenated {u : Uuid} (h : isCanonicalMaterialId u = true) :
    MaterialId.parseText (Hex.hyphenated u) = some u := by
  unfold MaterialId.parseText
  rw [Hex.ofHyphenated_hyphenated (canonical_lt h), Option.bind_eq_bind, Option.bind_some, if_pos rfl,
    parse_canonical h]

section

variable [UnicodeData]

def visualModel (x : Positioned) : EditingTimelineClip where
  clipId := "visual-".toList ++ padded x.1.sequence
  startMs := x.2
  durationMs := x.1.durationMs
  sourceMaterialId := some (Hex.hyphenated x.1.visualMaterialId)
  sourceInMs := x.1.visualSourceInMs
  sourceOutMs := x.1.visualSourceOutMs
  text := none
  gainDb := none
  transitionIn := none
  originalAudioMode := none

def narrationModel (x : Positioned) : EditingTimelineClip where
  clipId := "narration-".toList ++ padded x.1.sequence
  startMs := x.2
  durationMs := x.1.durationMs
  sourceMaterialId := some (Hex.hyphenated x.1.audioMaterialId)
  sourceInMs := some 0
  sourceOutMs := some x.1.durationMs
  text := none
  gainDb := some 0
  transitionIn := none
  originalAudioMode := none

def ambientModel (x : Positioned) : EditingTimelineClip where
  clipId := "ambient-".toList ++ padded x.1.sequence
  startMs := x.2
  durationMs := x.1.durationMs
  sourceMaterialId := some (Hex.hyphenated x.1.audioMaterialId)
  sourceInMs := x.1.visualSourceInMs
  sourceOutMs := x.1.visualSourceOutMs
  text := none
  gainDb := some 0
  transitionIn := none
  originalAudioMode := some .autoDuck

def captionModel (x : Positioned) : EditingTimelineClip where
  clipId := "caption-".toList ++ padded x.1.sequence
  startMs := x.2
  durationMs := x.1.durationMs
  sourceMaterialId := none
  sourceInMs := none
  sourceOutMs := none
  text := some x.1.captionText
  gainDb := none
  transitionIn := none
  originalAudioMode := none

/-! ### The host writes them -/

theorem visualDocument_eq (x : Positioned) :
    visualDocument x.2 (readParagraph x.1) = clipDocument (visualModel x) := rfl

theorem narrationDocument_eq {x : Positioned} (h : x.1.kind = .narrated) :
    audioDocument x.2 (readParagraph x.1) = clipDocument (narrationModel x) := by
  have hkind : (readParagraph x.1).kind = .narrated := congrArg readKind h
  unfold audioDocument
  rw [hkind]
  rfl

theorem ambientDocument_eq {x : Positioned} (h : x.1.kind = .originalSpeech) :
    audioDocument x.2 (readParagraph x.1) = clipDocument (ambientModel x) := by
  have hkind : (readParagraph x.1).kind = .originalSpeech := congrArg readKind h
  unfold audioDocument
  rw [hkind]
  rfl

theorem captionDocument_eq (x : Positioned) :
    captionDocument x.2 (readParagraph x.1) = clipDocument (captionModel x) := rfl

/-! ### They are within the bounds -/

section

variable {x : Positioned} (hend : x.2 + x.1.durationMs ≤ maxTimelineDurationMs)
include hend

theorem visualModel_bounded : Bounded (visualModel x) where
  clipId := clipId_valid (by simp) x.1.valid.sequence_le
  start_le := (Nat.le_add_right _ _).trans hend
  duration_pos := x.1.valid.duration_pos
  duration_le := x.1.valid.duration_le
  sourceIn := (source_le x.1).1
  sourceOut := (source_le x.1).2
  text _ h := nomatch h
  gain _ h := nomatch h
  transition := rfl

theorem narrationModel_bounded : Bounded (narrationModel x) where
  clipId := clipId_valid (by simp) x.1.valid.sequence_le
  start_le := (Nat.le_add_right _ _).trans hend
  duration_pos := x.1.valid.duration_pos
  duration_le := x.1.valid.duration_le
  sourceIn n h := by
    cases h
    exact Nat.zero_le _
  sourceOut n h := by
    cases h
    exact x.1.valid.duration_le.trans (by decide)
  text _ h := nomatch h
  gain g h := by
    cases h
    decide
  transition := rfl

theorem ambientModel_bounded : Bounded (ambientModel x) where
  clipId := clipId_valid (by simp) x.1.valid.sequence_le
  start_le := (Nat.le_add_right _ _).trans hend
  duration_pos := x.1.valid.duration_pos
  duration_le := x.1.valid.duration_le
  sourceIn := (source_le x.1).1
  sourceOut := (source_le x.1).2
  text _ h := nomatch h
  gain g h := by
    cases h
    decide
  transition := rfl

theorem captionModel_bounded : Bounded (captionModel x) where
  clipId := clipId_valid (by simp) x.1.valid.sequence_le
  start_le := (Nat.le_add_right _ _).trans hend
  duration_pos := x.1.valid.duration_pos
  duration_le := x.1.valid.duration_le
  sourceIn _ h := nomatch h
  sourceOut _ h := nomatch h
  text t h := by
    cases h
    exact (of_decide_eq_true x.1.valid.caption).2.2.2.1
  gain _ h := nomatch h
  transition := rfl

end

/-! ### The control plane makes the clips of its own builder of them -/

theorem visualModel_toDomain (x : Positioned) : (visualModel x).toDomain = visualClip x := by
  unfold EditingTimelineClip.toDomain visualClip
  dsimp only [visualModel, Option.mapM_some]
  rw [parseText_hyphenated x.1.valid.visualId, parse_canonical x.1.valid.visualId]
  rfl

theorem narrationModel_toDomain (x : Positioned) :
    (narrationModel x).toDomain = narrationClip x := by
  unfold EditingTimelineClip.toDomain narrationClip
  dsimp only [narrationModel, Option.mapM_some]
  rw [parseText_hyphenated x.1.valid.audioId, parse_canonical x.1.valid.audioId]
  rfl

theorem ambientModel_toDomain (x : Positioned) : (ambientModel x).toDomain = ambientClip x := by
  unfold EditingTimelineClip.toDomain ambientClip
  dsimp only [ambientModel, Option.mapM_some]
  rw [parseText_hyphenated x.1.valid.audioId, parse_canonical x.1.valid.audioId]
  rfl

theorem captionModel_toDomain (x : Positioned) : (captionModel x).toDomain = captionClip x := rfl

/-! ## The loop -/

/-- The loop lays the paragraphs one behind the other. -/
theorem foldl_push (lanes : LaneDocuments) (ps : List Paragraph) :
    (ps.map readParagraph).foldl LaneDocuments.push lanes =
      { startMs := lanes.startMs + (ps.map (·.durationMs)).sum
        visual := lanes.visual ++
          (positioned lanes.startMs ps).map fun x => clipDocument (visualModel x)
        narration := lanes.narration ++
          ((positioned lanes.startMs ps).filter (·.1.kind = .narrated)).map fun x =>
            clipDocument (narrationModel x)
        ambient := lanes.ambient ++
          ((positioned lanes.startMs ps).filter (·.1.kind = .originalSpeech)).map fun x =>
            clipDocument (ambientModel x)
        caption := lanes.caption ++
          (positioned lanes.startMs ps).map fun x => clipDocument (captionModel x) } := by
  induction ps generalizing lanes with
  | nil => simp [positioned]
  | cons p ps ih =>
    rw [List.map_cons, List.foldl_cons, ih]
    have hvisual := visualDocument_eq (p, lanes.startMs)
    have hcaption := captionDocument_eq (p, lanes.startMs)
    have hduration : (readParagraph p).durationMs = p.durationMs := rfl
    cases hk : p.kind with
    | narrated =>
      have haudio := narrationDocument_eq (x := (p, lanes.startMs)) hk
      have hread : (readParagraph p).kind = .narrated := congrArg readKind hk
      simp [LaneDocuments.push, hread, hduration, positioned, hvisual, haudio, hcaption, hk,
        Nat.add_assoc]
    | originalSpeech =>
      have haudio := ambientDocument_eq (x := (p, lanes.startMs)) hk
      have hread : (readParagraph p).kind = .originalSpeech := congrArg readKind hk
      simp [LaneDocuments.push, hread, hduration, positioned, hvisual, haudio, hcaption, hk,
        Nat.add_assoc]

/-! ## The tracks -/

/-- The control plane reads the documents and makes the tracks of them. -/
def Reads (documents : List Json) (tracks : List TimelineTrack) : Prop :=
  ∃ read, documents.mapM EditingTimelineTrack.ofJson = some read ∧
    read.mapM EditingTimelineTrack.toDomain = some tracks

theorem Reads.nil : Reads [] [] := ⟨[], rfl, rfl⟩

theorem Reads.append {ds ds' : List Json} {ts ts' : List TimelineTrack} (h : Reads ds ts)
    (h' : Reads ds' ts') : Reads (ds ++ ds') (ts ++ ts') := by
  obtain ⟨read, hread, htracks⟩ := h
  obtain ⟨read', hread', htracks'⟩ := h'
  refine ⟨read ++ read', ?_, ?_⟩
  · rw [List.mapM_append, hread, hread']
    rfl
  · rw [List.mapM_append, htracks, htracks']
    rfl

/-- A track whose clips are read. -/
theorem Reads.track {name : String} {kind : TimelineTrackKind} {xs : List Positioned}
    {model : Positioned → EditingTimelineClip} {clip : Positioned → Option TimelineClip}
    (hkind : kind.value = name.toList) (hname : localIdPattern name.toList = true) (hne : xs ≠ [])
    (hlen : xs.length ≤ maxClipsPerTrack) (hbounded : ∀ x ∈ xs, Bounded (model x))
    (hclip : ∀ x, (model x).toDomain = clip x) {clips : List TimelineClip}
    (hclips : xs.mapM clip = some clips) {track : TimelineTrack}
    (htrack : TimelineTrack.make ⟨name.toList, kind, clips⟩ = some track) :
    Reads [trackDocument name name (xs.map fun x => clipDocument (model x))] [track] := by
  have hitems : items? 1 maxClipsPerTrack EditingTimelineClip.ofJson
      (.arr (xs.map fun x => clipDocument (model x))) = some (xs.map model) := by
    have hlist : Json.list? EditingTimelineClip.ofJson
        (.arr (xs.map fun x => clipDocument (model x))) = some (xs.map model) :=
      Json.list?_map fun x hx => ofJson_clip (hbounded x hx)
    unfold items?
    rw [hlist]
    refine if_pos ⟨?_, ?_⟩
    · rw [List.length_map]
      exact List.length_pos_of_ne_nil hne
    · rw [List.length_map]
      exact hlen
  have hid : text? 1 64 (.str name.toList) = some name.toList := if_pos (length_localId hname)
  have hread : trackKind? (.str name.toList) = some kind := hkind ▸ trackKind?_value kind
  have hdocument : EditingTimelineTrack.ofJson
      (trackDocument name name (xs.map fun x => clipDocument (model x))) =
        some ⟨name.toList, kind, xs.map model⟩ := by
    have hfields : Json.fields ["trackId", "kind", "clips"]
      (trackDocument name name (xs.map fun x => clipDocument (model x))) = some _ := rfl
    unfold EditingTimelineTrack.ofJson
    rw [hfields]
    simp [Json.required, hid, hread, hitems]
  have hdomain : EditingTimelineTrack.toDomain ⟨name.toList, kind, xs.map model⟩ = some track := by
    unfold EditingTimelineTrack.toDomain
    rw [List.mapM_map]
    simp only [Function.comp_def, hclip]
    rw [hclips]
    exact htrack
  refine ⟨[⟨name.toList, kind, xs.map model⟩], ?_, ?_⟩
  · simp [hdocument]
  · simp [hdomain]

/-- A track that is left out when it has no clips. -/
theorem Reads.optional {name : String} {kind : TimelineTrackKind} {xs : List Positioned}
    {model : Positioned → EditingTimelineClip} {clip : Positioned → Option TimelineClip}
    (hkind : kind.value = name.toList) (hname : localIdPattern name.toList = true)
    (hlen : xs.length ≤ maxClipsPerTrack) (hbounded : ∀ x ∈ xs, Bounded (model x))
    (hclip : ∀ x, (model x).toDomain = clip x) {clips : List TimelineClip}
    (hclips : xs.mapM clip = some clips) {tracks : List TimelineTrack}
    (htracks : optionalTrack name kind clips = some tracks) :
    Reads (if (xs.map fun x => clipDocument (model x)) = [] then []
      else [trackDocument name name (xs.map fun x => clipDocument (model x))]) tracks := by
  have hlength := (mapM_eq_some.1 hclips).length_eq
  unfold optionalTrack at htracks
  by_cases hne : xs = []
  · have hnone : clips = [] := List.length_eq_zero_iff.1 (hlength ▸ congrArg List.length hne)
    rw [if_pos hnone] at htracks
    cases htracks
    rw [hne]
    exact .nil
  · have hsome : clips ≠ [] := by
      intro hnone
      rw [hnone, List.length_nil, List.length_eq_zero_iff] at hlength
      exact hne hlength
    rw [if_neg hsome] at htracks
    obtain ⟨track, htrack, rfl⟩ := Option.map_eq_some_iff.1 htracks
    rw [if_neg (by simpa using hne)]
    exact .track hkind hname hne hlen hbounded hclip hclips htrack

theorem saveRequest_of_reads {documents : List Json} {tracks : List TimelineTrack}
    (h : Reads documents tracks) (hne : 1 ≤ tracks.length) (hle : tracks.length ≤ 5)
    {durationMs : Nat} (hlow : minTimelineDurationMs ≤ durationMs)
    (hhigh : durationMs ≤ maxTimelineDurationMs) :
    saveRequest (.obj [("durationMs", .ofNat durationMs), ("tracks", .arr documents)]) =
      some (durationMs, tracks) := by
  obtain ⟨read, hread, hdomain⟩ := h
  have hlength := (mapM_eq_some.1 hdomain).length_eq
  have hitems : items? 1 trackKinds.length EditingTimelineTrack.ofJson (.arr documents) =
      some read := by
    unfold items?
    rw [show Json.list? EditingTimelineTrack.ofJson (.arr documents) = some read from hread]
    exact if_pos ⟨hlength ▸ hne, hlength ▸ hle⟩
  have hduration := between?_ofNat hlow hhigh
  have hrequest : EditingTimelineSaveRequest.ofJson
      (.obj [("durationMs", .ofNat durationMs), ("tracks", .arr documents)]) =
        some ⟨durationMs, read, none⟩ := by
    have hfields : Json.fields ["durationMs", "tracks", "expectedRevision"]
      (.obj [("durationMs", .ofNat durationMs), ("tracks", .arr documents)]) = some _ := rfl
    unfold EditingTimelineSaveRequest.ofJson
    rw [hfields]
    simp [Json.required, Json.optional, Json.get, hduration, hitems]
  unfold saveRequest
  rw [hrequest]
  simp [hdomain]

/-- **One film.** What the control plane reads of the document that the host builds from a
draft is the cut that the control plane builds of that draft, under any revision. -/
theorem timeline_document (draft : LocalEditingTimelineDraft)
    (analysisUpdates : List SmartEditMaterialAnalysisRequest) (jobId schemaVersion : List Char)
    (narrationRegistrations : List VideoWorkerSmartEditNarrationRegistration)
    (timelineId : TimelineId) (projectId : EditingProjectId) (createdAt : Time) (revision : Nat) :
    ∃ d tracks t, VideoWorkerSmartEditDraft.ofJson (draftDocument draft) = some d ∧
      saveRequest (VideoWorkerSmartEditResult.timelineDocument
        ⟨analysisUpdates, d, jobId, narrationRegistrations, schemaVersion⟩) =
          some (draft.durationMs, tracks) ∧
      createLocalEditingTimeline draft timelineId projectId createdAt = some t ∧
      t.durationMs = draft.durationMs ∧ t.tracks = tracks ∧
      (Timeline.make
        ⟨timelineId, projectId, revision + 1, draft.durationMs, tracks, createdAt⟩).isSome := by
  obtain ⟨v, n, a, c, visual, caption, narration, ambient, hv, hn, ha, hc, hvtrack, hnarration,
    hambient, hctrack, hl, ht⟩ := tracks_of_draft draft
  have hend {x : Positioned} (hx : x ∈ draft.laid) := laid_end_le_max draft hx
  have hfiltered {p : Positioned → Bool} {x : Positioned} (hx : x ∈ draft.laid.filter p) :=
    laid_end_le_max draft (List.mem_of_mem_filter hx)
  have hlen : draft.laid.length ≤ maxClipsPerTrack := by
    rw [positioned_length]
    exact draft.length_le.trans (by decide)
  have hfilter (p : Positioned → Bool) : (draft.laid.filter p).length ≤ maxClipsPerTrack :=
    (List.length_filter_le _ _).trans hlen
  have hreads := (((Reads.track rfl (by decide) (laid_ne_nil draft) hlen
      (fun x hx => visualModel_bounded (hend hx)) visualModel_toDomain hv hvtrack).append
    (.optional rfl (by decide) (hfilter _) (fun x hx => narrationModel_bounded (hfiltered hx))
      narrationModel_toDomain hn hnarration)).append
    (.optional rfl (by decide) (hfilter _) (fun x hx => ambientModel_bounded (hfiltered hx))
      ambientModel_toDomain ha hambient)).append
    (.track rfl (by decide) (laid_ne_nil draft) hlen (fun x hx => captionModel_bounded (hend hx))
      captionModel_toDomain hc hctrack)
  have hvalid := cut_valid hl ht timelineId projectId createdAt
  refine ⟨readDraft draft, _, ⟨_, hvalid⟩, ofJson_draft draft, ?_, ?_, rfl, rfl, ?_⟩
  · have hloop := foldl_push ⟨0, [], [], [], []⟩ draft.paragraphs
    unfold VideoWorkerSmartEditResult.timelineDocument
    dsimp only [readDraft]
    rw [hloop]
    exact saveRequest_of_reads hreads ht.nonempty ht.length_le draft.duration_ge draft.duration_le
  · unfold createLocalEditingTimeline
    dsimp only [bind]
    rw [hv, Option.bind_some, hn, Option.bind_some, ha, Option.bind_some, hc, Option.bind_some,
      hvtrack, Option.bind_some, hnarration, Option.bind_some, hambient, Option.bind_some, hctrack,
      Option.bind_some]
    exact Timeline.make_valid hvalid
  · have hlater : TimelineFields.Valid ⟨timelineId, projectId, revision + 1, draft.durationMs,
        [visual] ++ narration ++ ambient ++ [caption], createdAt⟩ :=
      hvalid.of_cut rfl rfl (Nat.le_add_left 1 revision)
    rw [Timeline.make_valid hlater]
    rfl

end

end AutomationTool.Desktop
