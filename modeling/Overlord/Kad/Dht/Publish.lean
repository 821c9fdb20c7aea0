import Overlord.Kad.Dht.SearchPhase
import Overlord.Kad.Net.Rpc
import Overlord.Kad.Proto.RoundTrip

/-!
# Publishing

`publish_keyword`, `publish_source` and `publish_notes` walk to a target and send a request to the
nearest contacts that answered the walk, all at once.  The tasks are joined in the order in which
they end, and a task that panicked is left out.

* `publish_meets_search` — what is published is where a search looks.  When the walk of a search is
  answered by the same contacts as that of a publish, the contacts that the one asks begin with
  those that the other went to, or the other way round.
* `publish_accounts` — whatever the order in which the tasks end, the statistics count the contacts
  that acknowledged and those that did not answer in time.  `publish_notes` counts an
  acknowledgement only if it is a `PUBLISH_RES`; the other two count any answer.
-/

set_option autoImplicit false

namespace Overlord.Kad.Dht

open Machine Net

/-! ## The contacts -/

/-- `publish_distance_high32`. -/
def publishDistanceHigh32 (distance : NodeId) : UInt32 :=
  UInt32.ofNat (Wire.ofLe (distance.bytes.toList.take 4))

/-- `publish_target_is_within_tolerance`. -/
def publishTargetIsWithinTolerance (target : NodeId) (contact : TraversalContact) : Bool :=
  match contact.addr.ip with
  | .v4 ip =>
    if ip.isPrivate || ip.isLoopback || ip.isLinkLocal then true
    else decide (publishDistanceHigh32 (target.distance contact.id) ≤ SEARCHTOLERANCE)
  | .v6 _ => false

/-- `select_publish_contacts`. -/
def selectPublishContacts (target : NodeId) (contacts : List TraversalContact)
    (publishContactFanout : Nat) : List TraversalContact :=
  (contacts.filter (publishTargetIsWithinTolerance target)).take (max publishContactFanout 1)

/-- The walk before a publish. -/
def publishConfig (target : NodeId) (publishContactFanout : Nat) : TraversalConfig :=
  ⟨target, .store, max publishContactFanout K⟩

/-- The contacts that a publish goes to after its walk. -/
def Walk.publishContacts (w : Walk) (target : NodeId) (publishContactFanout : Nat) :
    List TraversalContact :=
  selectPublishContacts target (w.closest (publishConfig target publishContactFanout))
    publishContactFanout

/-- A publish is gated as the search is. -/
theorem publishTargetIsWithinTolerance_eq (target : NodeId) :
    publishTargetIsWithinTolerance target = passesSearchTolerance target := rfl

/-- The contacts are the first ones within tolerance. -/
theorem publishContacts_prefix_filter (w : Walk) (target : NodeId) (fanout : Nat) :
    w.publishContacts target fanout <+: w.responded.filter (passesSearchTolerance target) := by
  rw [Walk.publishContacts, selectPublishContacts, publishTargetIsWithinTolerance_eq]
  exact (List.take_prefix _ _).trans ((List.take_prefix _ _).filter _)

/-- **What is published can be found.**  A publish goes to distinct contacts, nearest first, that
answered its walk and accept it.  If the walk of a search for the same target was answered by the
same contacts, one of the two lists of contacts begins with the other. -/
theorem publish_meets_search (target : NodeId) (publishContactFanout : Nat)
    (search : TraversalConfig) (initial initial' : List TraversalContact)
    (events events' : List Event) (w w' : Walk)
    (hpublish : run (Walk.step (publishConfig target publishContactFanout))
      (Walk.start (publishConfig target publishContactFanout) initial) events = some w)
    (hsearch : run (Walk.step search) (Walk.start search initial') events' = some w')
    (htarget : search.target = target) (hsame : w.responded = w'.responded) :
    let published := w.publishContacts target publishContactFanout
    let asked := selectPhase2Contacts w'.responded search.target search.phase2Fanout
    published.Pairwise (fun a b => target.distance a.id < target.distance b.id) ∧
    published.length ≤ max publishContactFanout 1 ∧
    asked.Pairwise (fun a b => target.distance a.id < target.distance b.id) ∧
    (published <+: asked ∨ asked <+: published) := by
  intro published asked
  have hpublished := publishContacts_prefix_filter w target publishContactFanout
  refine ⟨?_, List.length_take_le _ _, ?_, ?_⟩
  · exact (Walk.responded_pairwise (Walk.inv_of_run hpublish).ordered).sublist
      (hpublished.sublist.trans List.filter_sublist)
  · rw [← htarget]
    exact (Walk.responded_pairwise (Walk.inv_of_run hsearch).ordered).sublist
      (selectPhase2Contacts_sublist _ _ _)
  · have hasked : asked <+: w.responded.filter (passesSearchTolerance target) := by
      rw [hsame, ← htarget]
      exact List.take_prefix _ _
    exact List.prefix_or_prefix_of_prefix hpublished hasked

/-- The walk of a publish to the contacts of the sample search. -/
theorem run_samplePublish : ∃ w, run (Walk.step (publishConfig .ZERO 1))
      (Walk.start (publishConfig .ZERO 1) [SearchPhase.sampleContact])
      SearchPhase.sampleWalkEvents = some w ∧
    w.responded = [SearchPhase.sampleContact, SearchPhase.secondContact] := by
  have hstart : Walk.start (publishConfig .ZERO 1) [SearchPhase.sampleContact] =
      { candidates := [Walk.newCandidate .ZERO SearchPhase.sampleContact]
        seen := [Walk.sampleId 0]
        joinSet := []
        lastLookupResponseAt := none
        queries := []
        phase := .top } := by
    simp [Walk.start, Walk.initialCandidates, Walk.newCandidate, publishConfig,
      SearchPhase.sampleContact]
  rw [hstart]
  exact ⟨_, rfl, by decide⟩

/-- A search for notes begins with the contact that a publish went to. -/
theorem publish_meets_search_sample :
    ∃ w w' : Walk, w.responded = w'.responded ∧
      let published := w.publishContacts .ZERO 1
      let asked := selectPhase2Contacts w'.responded .ZERO 5
      published = [SearchPhase.sampleContact] ∧
      asked = [SearchPhase.sampleContact, SearchPhase.secondContact] ∧
      published.length ≤ 1 ∧ (published <+: asked ∨ asked <+: published) := by
  obtain ⟨w, hrun, hresponded⟩ := run_samplePublish
  have hsame : w.responded = SearchPhase.sampleWalk.responded := hresponded.trans (by decide)
  have hmeets := publish_meets_search .ZERO 1 SearchPhase.sampleSearch _ _ _ _ w _ hrun
    SearchPhase.run_sampleWalk rfl hsame
  have hpublished : w.publishContacts .ZERO 1 = [SearchPhase.sampleContact] := by
    rw [Walk.publishContacts, Walk.closest, hresponded]
    decide
  exact ⟨w, SearchPhase.sampleWalk, hsame, hpublished, by decide, hmeets.2.1, hmeets.2.2.2⟩

/-! ## The packets -/

def KAD_VERSION_AICH_KEYWORD_PUBLISH : UInt8 := 9

/-- `Tag::kad_aich_hash_pub`. -/
def kadAichHashPub (hash : Vector UInt8 20) : Tag :=
  ⟨.short tagName.KADAICHHASHPUB, .smallBlob hash.toList⟩

/-- The tag that is added for a contact. -/
def aichTags (aichHash : Option (Vector UInt8 20)) (contactVersion : UInt8) : List Tag :=
  if KAD_VERSION_AICH_KEYWORD_PUBLISH ≤ contactVersion then
    (aichHash.map kadAichHashPub).toList
  else []

/-- `build_keyword_publish_packet`. -/
def buildKeywordPublishPacket (target : NodeId) (fileHash : Ed2kHash) (baseTags : List Tag)
    (aichHash : Option (Vector UInt8 20)) (contactVersion : UInt8) : KadPacket :=
  .publishKeyReq ⟨target, [⟨fileHash, baseTags ++ aichTags aichHash contactVersion⟩]⟩

/-- What is published about a target. -/
inductive Publication where
  | keyword (fileHash : Ed2kHash) (tags : List Tag) (aichHash : Option (Vector UInt8 20))
  | source (publisherId : NodeId) (tags : List Tag)
  | notes (publisherId : NodeId) (tags : List Tag)

namespace Publication

/-- The packet for a contact. -/
def packet (target : NodeId) (contact : TraversalContact) : Publication → KadPacket
  | keyword fileHash tags aichHash =>
    buildKeywordPublishPacket target fileHash tags aichHash contact.version
  | source publisherId tags => .publishSourceReq ⟨target, publisherId, tags⟩
  | notes publisherId tags => .publishNotesReq ⟨target, publisherId, tags⟩

/-- The answer counts as an acknowledgement. -/
def acknowledges : Publication → KadPacket → Bool
  | notes .., .publishRes _ => true
  | notes .., _ => false
  | _, _ => true

end Publication

/-! ## The statistics -/

/-- `PublishAttemptStats`. -/
structure PublishAttemptStats where
  closestContactsConsidered : Nat
  attemptedContacts : Nat
  ackedContacts : Nat
  timedOutContacts : Nat
deriving DecidableEq, Repr

namespace PublishAttemptStats

/-- `failed_contacts`. -/
def failedContacts (stats : PublishAttemptStats) : Nat :=
  stats.attemptedContacts - stats.ackedContacts

/-- A result is counted. -/
def count (publication : Publication) (stats : PublishAttemptStats) :
    Outcome → PublishAttemptStats
  | .ok answer =>
    if publication.acknowledges answer then { stats with ackedContacts := stats.ackedContacts + 1 }
    else stats
  | .timeout => { stats with timedOutContacts := stats.timedOutContacts + 1 }
  | .sendError | .channelClosed => stats

end PublishAttemptStats

/-- `publish_keyword`, `publish_source` and `publish_notes` after the walk, when the tasks end with
these results; `none` is `PublishFailed`. -/
def Walk.publish (w : Walk) (target : NodeId) (publishContactFanout : Nat)
    (publication : Publication) (results : List Outcome) : Option PublishAttemptStats :=
  let closest := w.closest (publishConfig target publishContactFanout)
  if closest = [] then none
  else
    let stats : PublishAttemptStats :=
      ⟨closest.length, (w.publishContacts target publishContactFanout).length, 0, 0⟩
    some (results.foldl (PublishAttemptStats.count publication) stats)

/-- The result is an acknowledgement. -/
def Publication.Acked (publication : Publication) : Option Outcome → Bool
  | some (.ok answer) => publication.acknowledges answer
  | _ => false

theorem foldl_count (publication : Publication) (results : List Outcome)
    (stats : PublishAttemptStats) :
    results.foldl (PublishAttemptStats.count publication) stats =
      { stats with
        ackedContacts := stats.ackedContacts +
          results.countP (fun result => publication.Acked (some result))
        timedOutContacts := stats.timedOutContacts + results.count .timeout } := by
  induction results generalizing stats with
  | nil => rfl
  | cons result results ih =>
    rw [List.foldl_cons, ih]
    cases result with
    | ok answer =>
      by_cases hack : publication.acknowledges answer = true
      · simp [PublishAttemptStats.count, Publication.Acked, hack, Nat.add_assoc, Nat.add_comm 1]
      · simp [PublishAttemptStats.count, Publication.Acked, hack]
    | timeout =>
      simp [PublishAttemptStats.count, Publication.Acked, Nat.add_assoc, Nat.add_comm 1]
    | sendError => simp [PublishAttemptStats.count, Publication.Acked]
    | channelClosed => simp [PublishAttemptStats.count, Publication.Acked]

/-- **The statistics of a publish.**  Each contact has a task, which ends with a result or panics;
in whatever order the results come, the contacts that acknowledged, those that did not answer in
time and those that failed are counted.  A publish fails only when nobody answered its walk. -/
theorem publish_accounts (w : Walk) (target : NodeId) (publishContactFanout : Nat)
    (publication : Publication) (ended : TraversalContact → Option Outcome)
    (results : List Outcome)
    (horder : results.Perm ((w.publishContacts target publishContactFanout).filterMap ended)) :
    let contacts := w.publishContacts target publishContactFanout
    (w.publish target publishContactFanout publication results = none ↔ w.responded = []) ∧
    ∀ stats, w.publish target publishContactFanout publication results = some stats →
      stats.attemptedContacts = contacts.length ∧
      stats.ackedContacts = contacts.countP (fun contact => publication.Acked (ended contact)) ∧
      stats.timedOutContacts = contacts.countP (fun contact => ended contact = some .timeout) ∧
      stats.failedContacts =
        contacts.countP (fun contact => !publication.Acked (ended contact)) ∧
      stats.timedOutContacts ≤ stats.failedContacts := by
  intro contacts
  have hclosest : w.closest (publishConfig target publishContactFanout) = [] ↔
      w.responded = [] := by
    rw [Walk.closest, List.take_eq_nil_iff, or_iff_right]
    simp [publishConfig, TraversalConfig.closestLimit, K]
  refine ⟨?_, fun stats hstats => ?_⟩
  · rw [← hclosest, Walk.publish]
    split_ifs with hnil <;> simp [hnil]
  · simp only [Walk.publish] at hstats
    split_ifs at hstats
    obtain rfl := Option.some.inj hstats
    rw [foldl_count]
    have hacked : results.countP (fun result => publication.Acked (some result)) =
        contacts.countP fun contact => publication.Acked (ended contact) := by
      rw [horder.countP_eq, List.countP_filterMap]
      refine List.countP_congr fun contact _ => ?_
      cases ended contact <;> simp [Publication.Acked]
    have htimeout : results.count .timeout =
        contacts.countP fun contact => ended contact = some .timeout := by
      rw [horder.count_eq, List.count_filterMap]
      refine List.countP_congr fun contact _ => ?_
      simp
    have hsplit : contacts.length =
        contacts.countP (fun contact => publication.Acked (ended contact)) +
          contacts.countP (fun contact => !publication.Acked (ended contact)) := by
      simpa using List.length_eq_countP_add_countP fun contact => publication.Acked (ended contact)
    -- a contact that did not answer in time did not acknowledge
    have hle : contacts.countP (fun contact => ended contact = some .timeout) ≤
        contacts.countP fun contact => !publication.Acked (ended contact) := by
      refine List.countP_mono_left fun contact _ htimeout => ?_
      rw [of_decide_eq_true htimeout]
      rfl
    have hfailed : contacts.length -
        contacts.countP (fun contact => publication.Acked (ended contact)) =
        contacts.countP fun contact => !publication.Acked (ended contact) := by
      omega
    simp only [PublishAttemptStats.failedContacts, hacked, htimeout, Nat.zero_add]
    exact ⟨rfl, trivial, trivial, hfailed, hle.trans_eq hfailed.symm⟩

/-- One of two contacts acknowledges and the other one does not answer in time. -/
theorem publish_accounts_timeout :
    ∃ stats, SearchPhase.sampleWalk.publish .ZERO 3 (.source .ZERO [])
        [.timeout, .ok (.publishRes ⟨.ZERO, 1, none⟩)] = some stats ∧
      stats.attemptedContacts = 2 ∧ stats.ackedContacts = 1 ∧ stats.timedOutContacts = 1 := by
  obtain ⟨hfails, hcounts⟩ := publish_accounts SearchPhase.sampleWalk .ZERO 3 (.source .ZERO [])
    (fun contact =>
      if contact = SearchPhase.sampleContact then some (.ok (.publishRes ⟨.ZERO, 1, none⟩))
      else some .timeout)
    [.timeout, .ok (.publishRes ⟨.ZERO, 1, none⟩)] (by decide)
  cases hpublish : SearchPhase.sampleWalk.publish .ZERO 3 (.source .ZERO [])
      [.timeout, .ok (.publishRes ⟨.ZERO, 1, none⟩)] with
  | none => exact absurd (hfails.mp hpublish) (by decide)
  | some stats =>
    obtain ⟨hattempted, hacked, htimeout, -⟩ := hcounts stats hpublish
    exact ⟨stats, rfl, hattempted, hacked, htimeout⟩

end Overlord.Kad.Dht
