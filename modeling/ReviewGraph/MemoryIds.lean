import ReviewGraph.ConversationMemory
import ReviewGraph.PayloadRoundTrip
import ReviewGraph.Quality

/-!
# Identifiers of memories

The quality gate looks up a memory by its identifier, which `_memory_id` joins from the kind, the
thread and the identifier of a comment.  `IdsSeparate` says when the joined identifiers are
different.
-/

namespace ReviewGraph

/-! ## Sources -/

/-- What `build_conversation_memory` reads of a comment or a review, with its place. -/
structure MemorySource where
  isReview : Bool
  kind : Text
  threadId : Option Text
  id : Text
  resolvedStatus : Text
  provider : Text
  trustLabel : Text
  author : Text
  authorAssociation : Text
  authorType : Text
  deriving DecidableEq

/-- A comment with its thread, as a source. -/
def commentSource (comment : PullRequestComment) (threadId : Option Text) (resolvedStatus : Text) :
    MemorySource :=
  ⟨false, comment.sourceType, threadId, comment.id, resolvedStatus, comment.sourceProvider,
    comment.trustLabel, comment.author, comment.authorAssociation, comment.authorType⟩

/-- A review as a source. -/
def reviewSource (review : PullRequestReview) : MemorySource :=
  ⟨true, review.sourceType, none, review.id, "unresolved", review.sourceProvider,
    review.trustLabel, review.author, review.authorAssociation, review.authorType⟩

/-- The sources of a pull request, in the order of its memory. -/
def memorySources (pr : PullRequestContext) : List MemorySource :=
  (pr.comments.map fun comment => commentSource comment.val none "unresolved") ++
    ((pr.reviews.map fun review => reviewSource review.val) ++
      pr.reviewThreads.flatMap fun thread => thread.val.comments.map fun comment =>
        commentSource comment.val (some thread.val.id) thread.val.resolvedStatus)

namespace MemorySource

/-- What distinguishes a source from others. -/
def triple (s : MemorySource) : Text × Option Text × Text := (s.kind, s.threadId, s.id)

/-- The identifier of the memory of a source. -/
def memoryId (s : MemorySource) : Text :=
  let provider := memorySourceProvider s.provider
  conversationMemoryId provider s.kind s.id (if provider.isSome then s.threadId else none)

/-- The author is a listed bot, a listed operator or a member of the repository. -/
def HasTrustedAuthor (authors : TrustedAuthors) (s : MemorySource) : Prop :=
  s.authorType.casefold = "bot" ∧ s.author ∈ authors.bots ∨
    s.authorType.casefold = "user" ∧
      (s.author ∈ authors.operators ∨ s.authorAssociation.map asciiUpper ∈ trustedAssociations)

/-- An open comment of an author who is trusted, with a label and a provider that are. -/
def IsActionable (authors : TrustedAuthors) (s : MemorySource) : Prop :=
  s.isReview = false ∧ s.resolvedStatus = "unresolved" ∧
    isTrustEligible s.trustLabel s.provider = true ∧ s.HasTrustedAuthor authors

end MemorySource

/-- The pull request has been read from a fixture. -/
def FromFixture (pr : PullRequestContext) : Prop :=
  ∀ s ∈ memorySources pr, s.provider = "fixture"

/-- The pull request has been read from GitHub, whose resources give the kinds. -/
structure FromGitHub (pr : PullRequestContext) : Prop where
  provider : ∀ s ∈ memorySources pr, s.provider = "github"
  comments : ∀ comment ∈ pr.comments, comment.val.sourceType = "issue_comment"
  reviews : ∀ review ∈ pr.reviews, review.val.sourceType = "review"
  threads : ∀ thread ∈ pr.reviewThreads, ∀ comment ∈ thread.val.comments,
    comment.val.sourceType = "review_thread"

/-- The identifiers of a fixture are different, and no identifier of a thread on GitHub continues
that of another one by a colon in the way in which the identifiers of their comments do. -/
structure IdsSeparate (pr : PullRequestContext) : Prop where
  fixture : FromFixture pr → ((memorySources pr).map MemorySource.id).Nodup
  github : FromGitHub pr → ∀ thread ∈ pr.reviewThreads, ∀ comment ∈ thread.val.comments,
    ∀ thread' ∈ pr.reviewThreads, ∀ comment' ∈ thread'.val.comments, ∀ between : Text,
      thread'.val.id = thread.val.id ++ ':' :: between →
      comment.val.id ≠ between ++ ':' :: comment'.val.id

/-! ## Entries -/

/-- The entries have the identifiers of the sources. -/
lemma conversationEntries_ids (authors : TrustedAuthors) (pr : PullRequestContext) :
    (conversationEntries authors pr).map (fun m => m.id) =
      (memorySources pr).map MemorySource.memoryId := by
  have hreview : ∀ review : PullRequestReview,
      (reviewMemory authors review).id = (reviewSource review).memoryId := by
    intro review
    unfold MemorySource.memoryId reviewSource
    dsimp only
    rw [ite_self]
    rfl
  unfold conversationEntries memorySources
  simp only [List.map_append, List.map_map, List.map_flatMap]
  refine congrArg₂ _ rfl (congrArg₂ _ ?_ rfl)
  exact List.map_congr_left fun review _ => hreview review.val

/-- Who is trusted, by the type of the account. -/
lemma isTrusted_iff {authors : TrustedAuthors} {author authorAssociation authorType : Text} :
    isTrusted authors author authorAssociation authorType = true ↔
      authorType.casefold = "bot" ∧ author ∈ authors.bots ∨
      authorType.casefold = "user" ∧
        (author ∈ authors.operators ∨ authorAssociation.map asciiUpper ∈ trustedAssociations) := by
  have hne : Text.ofString "bot" ≠ Text.ofString "user" := by simp [Text.ofString_eq]
  unfold isTrusted
  dsimp only
  by_cases hbot : authorType.casefold = "bot"
  · simp [hbot, hne]
  · by_cases huser : authorType.casefold = "user"
    · simp [huser, hne.symm]
    · simp [hbot, huser]

/-- The memory of a comment is actionable exactly if its source is. -/
lemma commentMemory_actionable_iff {authors : TrustedAuthors} (comment : PullRequestComment)
    (thread : PullRequestReviewThread) :
    (commentMemory authors comment (commentThread thread).place).actionable = true ↔
      (commentSource comment (some thread.id) thread.resolvedStatus).IsActionable authors := by
  unfold MemorySource.IsActionable MemorySource.HasTrustedAuthor
  have hstatus : (commentThread thread).resolvedStatus = thread.resolvedStatus := rfl
  simp only [commentMemory, isTrustedComment, CommentThread.place, CommentThread.isActionable,
    commentSource, Bool.and_eq_true, Bool.not_not, decide_eq_true_eq, isTrusted_iff]
  rw [hstatus]
  tauto

/-- So is that of an issue comment. -/
lemma issueCommentMemory_actionable_iff {authors : TrustedAuthors} (comment : PullRequestComment) :
    (commentMemory authors comment issueCommentPlace).actionable = true ↔
      (commentSource comment none "unresolved").IsActionable authors := by
  unfold MemorySource.IsActionable MemorySource.HasTrustedAuthor
  simp only [commentMemory, isTrustedComment, issueCommentPlace, commentSource, Bool.and_eq_true,
    Bool.not_false, decide_eq_true_eq, isTrusted_iff]
  tauto

/-- The memory of a source is actionable exactly if the source is. -/
lemma conversationEntries_actionable (authors : TrustedAuthors) (pr : PullRequestContext) :
    List.Forall₂ (fun m s => m.actionable = true ↔ MemorySource.IsActionable authors s)
      (conversationEntries authors pr) (memorySources pr) := by
  unfold conversationEntries memorySources
  refine List.rel_append ?_ (List.rel_append ?_ ?_)
  · rw [List.forall₂_map_left_iff, List.forall₂_map_right_iff, List.forall₂_same]
    exact fun comment _ => issueCommentMemory_actionable_iff comment.val
  · rw [List.forall₂_map_left_iff, List.forall₂_map_right_iff, List.forall₂_same]
    intro review _
    simp [reviewMemory, reviewSource, MemorySource.IsActionable]
  · induction pr.reviewThreads with
    | nil => exact .nil
    | cons thread threads ih =>
      rw [List.flatMap_cons, List.flatMap_cons]
      refine List.rel_append ?_ ih
      rw [List.forall₂_map_left_iff, List.forall₂_map_right_iff, List.forall₂_same]
      exact fun comment _ => commentMemory_actionable_iff comment.val thread.val

/-! ## Identifiers -/

/-- A source of a fixture keeps its identifier. -/
lemma memoryId_of_fixture {s : MemorySource} (h : s.provider = "fixture") : s.memoryId = s.id := by
  unfold MemorySource.memoryId
  rw [h]
  simp [memorySourceProvider, conversationMemoryId]

/-- The identifier of a comment of a thread on GitHub. -/
lemma memoryId_of_thread {s : MemorySource} (hprovider : s.provider = "github")
    (hkind : s.kind = "review_thread") {thread : Text} (hthread : s.threadId = some thread) :
    s.memoryId = "github:review_thread:".toList ++ (thread ++ ':' :: s.id) := by
  unfold MemorySource.memoryId conversationMemoryId
  rw [hprovider, hkind, hthread]
  simp [memorySourceProvider, Text.ofString_eq]

/-- The identifier of another resource on GitHub. -/
lemma memoryId_of_none {s : MemorySource} (hprovider : s.provider = "github")
    (hthread : s.threadId = none) : s.memoryId = "github:".toList ++ (s.kind ++ ':' :: s.id) := by
  unfold MemorySource.memoryId conversationMemoryId
  rw [hprovider, hthread]
  simp [memorySourceProvider, Text.ofString_eq]

/-- The identifier of a source on GitHub names its kind first. -/
lemma FromGitHub.exists_memoryId {pr : PullRequestContext} (h : FromGitHub pr) {s : MemorySource}
    (hs : s ∈ memorySources pr) : ':' ∉ s.kind ∧ ∃ rest : Text,
      s.memoryId = "github:".toList ++ (s.kind ++ ':' :: rest) ∧
      (s.kind ≠ "review_thread" ∧ s.threadId = none ∧ rest = s.id ∨
        s.kind = "review_thread" ∧ ∃ thread ∈ pr.reviewThreads, ∃ comment ∈ thread.val.comments,
          s.threadId = some thread.val.id ∧ s.id = comment.val.id ∧
          rest = thread.val.id ++ ':' :: comment.val.id) := by
  have hprovider := h.provider s hs
  unfold memorySources at hs
  rcases List.mem_append.1 hs with hs | hs
  · obtain ⟨comment, hcomment, rfl⟩ := List.mem_map.1 hs
    have hkind : (commentSource comment.val none "unresolved").kind = "issue_comment" :=
      h.comments comment hcomment
    refine ⟨?_, _, memoryId_of_none hprovider rfl, .inl ⟨?_, rfl, rfl⟩⟩
    · rw [hkind]
      simp [Text.ofString_eq]
    · rw [hkind]
      simp [Text.ofString_eq]
  rcases List.mem_append.1 hs with hs | hs
  · obtain ⟨review, hreview, rfl⟩ := List.mem_map.1 hs
    have hkind : (reviewSource review.val).kind = "review" := h.reviews review hreview
    refine ⟨?_, _, memoryId_of_none hprovider rfl, .inl ⟨?_, rfl, rfl⟩⟩
    · rw [hkind]
      simp [Text.ofString_eq]
    · rw [hkind]
      simp [Text.ofString_eq]
  · obtain ⟨thread, hthread, hs⟩ := List.mem_flatMap.1 hs
    obtain ⟨comment, hcomment, rfl⟩ := List.mem_map.1 hs
    have hkind : (commentSource comment.val (some thread.val.id) thread.val.resolvedStatus).kind =
        "review_thread" := h.threads thread hthread comment hcomment
    refine ⟨?_, _, ?_, .inr ⟨hkind, thread, hthread, comment, hcomment, rfl, rfl, rfl⟩⟩
    · rw [hkind]
      simp [Text.ofString_eq]
    · rw [memoryId_of_thread hprovider hkind rfl, hkind]
      simp [Text.ofString_eq, commentSource]

/-- Two texts that are joined by a colon at different places. -/
lemma append_colon_eq_iff {t t' c c' : Text} : t ++ ':' :: c = t' ++ ':' :: c' ↔
    t = t' ∧ c = c' ∨ (∃ between, t' = t ++ ':' :: between ∧ c = between ++ ':' :: c') ∨
      ∃ between, t = t' ++ ':' :: between ∧ c' = between ++ ':' :: c := by
  constructor
  · intro h
    rcases List.append_eq_append_iff.1 h with ⟨x, ht, hx⟩ | ⟨x, ht, hx⟩
    · cases x with
      | nil =>
        rw [List.append_nil] at ht
        exact .inl ⟨ht.symm, (List.cons.inj hx).2⟩
      | cons d x =>
        obtain ⟨rfl, hc⟩ := List.cons.inj hx
        exact .inr (.inl ⟨x, ht, hc⟩)
    · cases x with
      | nil =>
        rw [List.append_nil] at ht
        exact .inl ⟨ht, (List.cons.inj hx).2.symm⟩
      | cons d x =>
        obtain ⟨rfl, hc⟩ := List.cons.inj hx
        exact .inr (.inr ⟨x, ht, hc⟩)
  · rintro (⟨rfl, rfl⟩ | ⟨between, rfl, rfl⟩ | ⟨between, rfl, rfl⟩) <;> simp

/-- An entry is found by its identifier where identifiers are distinct. -/
lemma memoryById_of_nodup {entries : List (Checked MemoryReference)}
    (h : (entries.map fun m => m.val.id).Nodup) {entry : Checked MemoryReference}
    (hmem : entry ∈ entries) : memoryById entries entry.val.id = some entry := by
  unfold memoryById
  cases hfind : entries.reverse.find? fun m => m.val.id = entry.val.id with
  | none =>
    have hnot := List.find?_eq_none.1 hfind entry (List.mem_reverse.2 hmem)
    exact absurd (decide_eq_true rfl) hnot
  | some found =>
    have hid : found.val.id = entry.val.id := by simpa using List.find?_some hfind
    have hfound := List.mem_reverse.1 (List.mem_of_find?_eq_some hfind)
    rw [List.inj_on_of_nodup_map h hfound hmem hid]

/-- The identifiers of the memories of a fixture or of GitHub are different exactly if those of
their sources are separate. -/
lemma nodup_memoryIds_iff {pr : PullRequestContext} (hread : FromFixture pr ∨ FromGitHub pr)
    (htriples : ((memorySources pr).map MemorySource.triple).Nodup) :
    ((memorySources pr).map MemorySource.memoryId).Nodup ↔ IdsSeparate pr := by
  have hfixture : FromFixture pr → (memorySources pr).map MemorySource.memoryId =
      (memorySources pr).map MemorySource.id := fun h =>
    List.map_congr_left fun s hs => memoryId_of_fixture (h s hs)
  have hinj : ∀ s ∈ memorySources pr, ∀ s' ∈ memorySources pr, s.triple = s'.triple → s = s' :=
    fun s hs s' hs' h => List.inj_on_of_nodup_map htriples hs hs' h
  constructor
  · intro hnodup
    refine ⟨fun h => hfixture h ▸ hnodup, fun h thread hthread comment hcomment thread' hthread'
      comment' hcomment' between hcontinues hid => ?_⟩
    -- Two comments of different threads with the same identifier.
    have hsource : ∀ thread ∈ pr.reviewThreads, ∀ comment ∈ thread.val.comments,
        commentSource comment.val (some thread.val.id) thread.val.resolvedStatus ∈ memorySources
          pr :=
      fun thread hthread comment hcomment => List.mem_append_right _ (List.mem_append_right _
        (List.mem_flatMap.2 ⟨thread, hthread, List.mem_map_of_mem hcomment⟩))
    have hs := hsource thread hthread comment hcomment
    have hs' := hsource thread' hthread' comment' hcomment'
    have heq := List.inj_on_of_nodup_map hnodup hs hs' (by
      rw [memoryId_of_thread (h.provider _ hs) (h.threads thread hthread comment hcomment) rfl,
        memoryId_of_thread (h.provider _ hs') (h.threads thread' hthread' comment' hcomment') rfl]
      exact congrArg _ (append_colon_eq_iff.2 (.inr (.inl ⟨between, hcontinues, hid⟩))))
    have hthreads : some thread.val.id = some thread'.val.id := congrArg MemorySource.threadId heq
    rw [hcontinues] at hthreads
    have hlength := congrArg List.length (Option.some.inj hthreads)
    simp only [List.length_append, List.length_cons] at hlength
    omega
  · intro hseparate
    rcases hread with h | h
    · rw [hfixture h]
      exact hseparate.fixture h
    · refine (List.nodup_map_iff_inj_on htriples.of_map).2 fun s hs s' hs' hid =>
        hinj s hs s' hs' ?_
      obtain ⟨hcolon, rest, hmemory, hrest⟩ := h.exists_memoryId hs
      obtain ⟨hcolon', rest', hmemory', hrest'⟩ := h.exists_memoryId hs'
      rw [hmemory, hmemory'] at hid
      have hsame : s.kind = s'.kind ∧ rest = rest' := by
        rcases append_colon_eq_iff.1 (List.append_cancel_left hid) with
          hsame | ⟨between, hkind, -⟩ | ⟨between, hkind, -⟩
        · exact hsame
        · exact absurd (hkind ▸ by simp) hcolon'
        · exact absurd (hkind ▸ by simp) hcolon
      obtain ⟨hkind, rfl⟩ := hsame
      unfold MemorySource.triple
      rcases hrest with ⟨hother, hthread, rfl⟩ | ⟨hthreads, thread, hmem, comment, hcomment,
          hthread,
          hcommentId, rfl⟩
      · rcases hrest' with ⟨-, hthread', hsameId⟩ | ⟨hthreads', -⟩
        · rw [hkind, hthread, hthread', hsameId]
        · exact absurd (hkind.trans hthreads') hother
      · rcases hrest' with ⟨hother', -⟩ | ⟨-, thread', hmem', comment', hcomment', hthread',
            hcommentId', hjoined⟩
        · exact absurd (hkind.symm.trans hthreads) hother'
        · rcases append_colon_eq_iff.1 hjoined with
            ⟨hsameThread, hsameId⟩ | ⟨between, hcontinues, hbetween⟩ | ⟨between, hcontinues,
              hbetween⟩
          · rw [hkind, hthread, hthread', hcommentId, hcommentId', hsameThread, hsameId]
          · exact absurd hbetween (hseparate.github h thread hmem comment hcomment thread' hmem'
              comment' hcomment' between hcontinues)
          · exact absurd hbetween (hseparate.github h thread' hmem' comment' hcomment' thread hmem
              comment hcomment between hcontinues)

/-- The identifiers of the entries of a memory. -/
lemma buildConversationMemory_entries {authors : TrustedAuthors} {pr : PullRequestContext}
    {memory : PRConversationMemory} (h : buildConversationMemory authors pr = .ok memory) :
    memory.entries.map (fun m => m.val) = conversationEntries authors pr := by
  unfold buildConversationMemory at h
  obtain ⟨entries, hmap, hmemory⟩ := bind_eq_ok.1 h
  obtain rfl := pure_eq_ok.1 hmemory
  have hvalues := (mapM_eq_ok.1 hmap).imp fun _ _ hbuilt => (construct_eq_ok.1 hbuilt).symm
  rw [← List.forall₂_map_right_iff, List.forall₂_eq_eq_eq] at hvalues
  exact hvalues.symm

/-- The memory of a fixture or of GitHub finds its entries by their identifiers exactly if the
identifiers of its sources are separate, and the entries of open comments of trusted authors are the
actionable ones. -/
theorem conversationMemory_ids {authors : TrustedAuthors} {pr : PullRequestContext}
    {memory : PRConversationMemory} (hread : FromFixture pr ∨ FromGitHub pr)
    (htriples : ((memorySources pr).map MemorySource.triple).Nodup)
    (h : buildConversationMemory authors pr = .ok memory) :
    ((memory.entries.map fun m => m.val.id).Nodup ↔ IdsSeparate pr) ∧
      (IdsSeparate pr → ∀ entry ∈ memory.entries,
        memoryById memory.entries entry.val.id = some entry) ∧
      List.Forall₂ (fun entry s => entry.val.actionable = true ↔
        MemorySource.IsActionable authors s)
        memory.entries (memorySources pr) := by
  have hentries := buildConversationMemory_entries h
  have hids : (memory.entries.map fun m => m.val.id) =
      (memorySources pr).map MemorySource.memoryId := by
    rw [← conversationEntries_ids authors pr, ← hentries, List.map_map]
    rfl
  have hiff := nodup_memoryIds_iff hread htriples
  rw [← hids] at hiff
  refine ⟨hiff, fun hseparate entry hmem => memoryById_of_nodup (hiff.2 hseparate) hmem, ?_⟩
  have hactionable := conversationEntries_actionable authors pr
  rw [← hentries, List.forall₂_map_left_iff] at hactionable
  exact hactionable

/-! ## A colon in an identifier -/

/-- A comment of an organization in a thread. -/
def colonComment (id : Text) (h : id ≠ []) : Checked PullRequestComment :=
  ⟨{  id := id
      author := "acme"
      authorAssociation := "NONE"
      authorType := "Organization"
      body := "text"
      createdAt := "2026-05-06T00:26:00Z"
      trustLabel := "untrusted"
      sourceType := "review_thread"
      url := none
      path := none
      line := none
      side := none
      commitSha := none
      position := none
      sourceProvider := "github" }, by
    simp [Record.postInit, requireNonEmpty, requireOptionalNonEmpty, requireOptionalPositiveInt, h]⟩

/-- An open thread with a comment. -/
def colonThread (id : Text) (h : id ≠ []) (comment : Checked PullRequestComment) :
    Checked PullRequestReviewThread :=
  ⟨⟨id, "src/a.py", "unresolved", [comment]⟩, by
    simp [Record.postInit, requireNonEmpty, h]⟩

/-- A changed file. -/
def colonFile : Checked PullRequestChangedFile :=
  ⟨⟨"src/a.py", some [], 1, 0, "modified", none, "available"⟩, by
    simp [Record.postInit, requireNonEmpty, requireOptionalNonEmpty]⟩

/-- A pull request with the given threads. -/
def colonPullRequest (threads : List (Checked PullRequestReviewThread)) : PullRequestContext where
  reviewTarget := firstPullRequest
  title := "title"
  body := none
  labels := []
  changedFiles := [colonFile]
  comments := []
  reviews := []
  reviewThreads := threads

/-- Nobody is trusted besides the members of the repository. -/
def membersOnly : TrustedAuthors := ⟨[], []⟩

/-- The comment is not trusted. -/
lemma colonComment_untrusted (id : Text) (h : id ≠ []) :
    isTrustedComment membersOnly (colonComment id h).val = false := by
  have hbot : (Text.ofString "Organization").casefold ≠ Text.ofString "bot" := by
    rw [Text.ofString_eq, Text.ofString_eq]
    decide +kernel
  have huser : (Text.ofString "Organization").casefold ≠ Text.ofString "user" := by
    rw [Text.ofString_eq, Text.ofString_eq]
    decide +kernel
  simp [isTrustedComment, isTrusted, colonComment, hbot, huser]

/-- The pull request can come from GitHub. -/
lemma fromGitHub_colonPullRequest (t t' c c' : Text) (ht : t ≠ []) (ht' : t' ≠ []) (hc : c ≠ [])
    (hc' : c' ≠ []) : FromGitHub (colonPullRequest [colonThread t ht (colonComment c hc),
      colonThread t' ht' (colonComment c' hc')]) := by
  refine ⟨?_, by simp [colonPullRequest], by simp [colonPullRequest], ?_⟩
  · simp [memorySources, colonPullRequest, colonThread, colonComment, commentSource]
  · intro thread hthread comment hcomment
    simp only [colonPullRequest, List.mem_cons, List.not_mem_nil, or_false] at hthread
    rcases hthread with rfl | rfl <;>
      · obtain rfl := List.mem_singleton.1 hcomment
        rfl

/-- The memory of two threads with a comment each is built. -/
lemma exists_colonMemory (t t' c c' : Text) (ht : t ≠ []) (ht' : t' ≠ []) (hc : c ≠ [])
    (hc' : c' ≠ []) : ∃ memory, buildConversationMemory membersOnly
      (colonPullRequest [colonThread t ht (colonComment c hc),
        colonThread t' ht' (colonComment c' hc')]) = .ok memory := by
  have hbuilt := commentMemory_of_untrusted (colonComment c hc)
    (commentThread_place_valid (colonThread t ht (colonComment c hc))) (colonComment_untrusted c hc)
  have hbuilt' := commentMemory_of_untrusted (colonComment c' hc')
    (commentThread_place_valid (colonThread t' ht' (colonComment c' hc')))
    (colonComment_untrusted c' hc')
  refine ⟨⟨[⟨_, hbuilt⟩, ⟨_, hbuilt'⟩]⟩, ?_⟩
  have hmap : (conversationEntries membersOnly (colonPullRequest
      [colonThread t ht (colonComment c hc), colonThread t' ht' (colonComment c' hc')])).mapM
        construct = .ok [⟨_, hbuilt⟩, ⟨_, hbuilt'⟩] :=
    mapM_eq_ok.2 (.cons (construct_of_postInit hbuilt) (.cons (construct_of_postInit hbuilt') .nil))
  unfold buildConversationMemory
  rw [hmap]
  rfl

/-- Two threads whose identifiers do not contain colons have different entries. -/
theorem conversationMemory_ids_sample : ∃ memory,
    buildConversationMemory membersOnly (colonPullRequest
      [colonThread ['a'] (by simp) (colonComment ['b'] (by simp)),
        colonThread ['c'] (by simp) (colonComment ['d'] (by simp))]) = .ok memory ∧
    (memory.entries.map fun m => m.val.id).Nodup := by
  obtain ⟨memory, hmemory⟩ := exists_colonMemory ['a'] ['c'] ['b'] ['d'] (by simp) (by simp)
      (by simp)
    (by simp)
  refine ⟨memory, hmemory, (conversationMemory_ids
    (.inr (fromGitHub_colonPullRequest ['a'] ['c'] ['b'] ['d'] _ _ _ _)) ?_ hmemory).1.2 ?_⟩
  · simp [memorySources, colonPullRequest, colonThread, colonComment, commentSource,
      MemorySource.triple]
  · constructor
    · intro hfixture
      have hprovider := hfixture _ List.mem_cons_self
      simp [commentSource, colonComment, Text.ofString_eq] at hprovider
    · intro _ thread hthread comment hcomment thread' hthread' comment' hcomment' between hcontinues
      have hlength := congrArg List.length hcontinues
      simp only [colonPullRequest, colonThread, List.mem_cons, List.not_mem_nil,
        or_false] at hthread hthread'
      rcases hthread with rfl | rfl <;> rcases hthread' with rfl | rfl <;> simp at hlength

/-- A thread `a` with a comment `b:c` and a thread `a:b` with a comment `c` give the same
identifier. -/
theorem conversationMemory_ids_colon : ¬ ∀ (authors : TrustedAuthors) (pr : PullRequestContext)
    (memory : PRConversationMemory), FromFixture pr ∨ FromGitHub pr →
    ((memorySources pr).map MemorySource.triple).Nodup →
    buildConversationMemory authors pr = .ok memory →
    (memory.entries.map fun m => m.val.id).Nodup := by
  intro hclaim
  obtain ⟨memory, hmemory⟩ := exists_colonMemory ['a'] ['a', ':', 'b'] ['b', ':', 'c'] ['c']
      (by simp)
    (by simp) (by simp) (by simp)
  have hnodup := hclaim membersOnly _ memory (.inr (fromGitHub_colonPullRequest _ _ _ _ _ _ _ _))
      (by
    simp [memorySources, colonPullRequest, colonThread, colonComment, commentSource,
      MemorySource.triple]) hmemory
  have hids := conversationEntries_ids membersOnly (colonPullRequest
    [colonThread ['a'] (by simp) (colonComment ['b', ':', 'c'] (by simp)),
      colonThread ['a', ':', 'b'] (by simp) (colonComment ['c'] (by simp))])
  rw [← buildConversationMemory_entries hmemory, List.map_map] at hids
  have hsame : (memory.entries.map fun m => m.val.id) = _ := hids
  rw [hsame] at hnodup
  revert hnodup
  simp [memorySources, colonPullRequest, colonThread, colonComment, commentSource,
    MemorySource.memoryId, memorySourceProvider, conversationMemoryId, Text.ofString_eq]

end ReviewGraph
