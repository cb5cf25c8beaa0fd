import ContributionRegistry.Deployment.Pair
import ContributionRegistry.Proofs.Http.Targets
import ContributionRegistry.Proofs.Json.Rereading

/-!
# Questions and their replies

What lies between a URL that is asked for and the answer that is made of the reply, whoever asks and
whatever is asked.

* **The request.** A URL whose segments are escaped is asked for with its own path and query, unless
  the URL is too long for a client (`Line.requestFor?_eq`).
* **The reply.** A success whose body is a written tree is decoded from that tree
  (`Client.read_of_success`), everything else is a failure with the status
  (`Client.read_of_failure`).
* **The way in between.** Only statuses that send the asker elsewhere make it ask again, so of other
  replies the first one is the answer (`Client.fetch_of_reply`).
-/

namespace ContributionRegistry

open Deployment (Line)
open Http (Request Response Target)
open Service (RegistryResource)
open Web (Url)

/-! ### The request -/

/-- The target of a URL is a part of it. -/
theorem Web.Url.size_target_le (url : Url) :
    (String.ofList url.target).utf8ByteSize ≤ url.size := by
  obtain ⟨before, hspell⟩ : ∃ before, url.spell =
      before ++ url.target ++ Url.spellFragment url.fragment :=
    ⟨_, by rw [Url.spell, Url.target, ← List.append_assoc]⟩
  rw [Url.size, Url.text, hspell, String.ofList_append, String.ofList_append,
    String.utf8ByteSize_append, String.utf8ByteSize_append]
  omega

/-- A URL that can be asked for is asked for with its path and its query. -/
theorem Deployment.Line.requestFor?_eq {url : Url} (hpath : url.path ≠ [])
    (hchars : ∀ segment ∈ url.path, ∀ c ∈ segment, Target.PathChar c)
    (hquery : ∀ c ∈ url.query.getD [], Target.QueryChar c) :
    Line.requestFor? url =
      if url.size ≤ Target.largestSize then
        some { method := "GET", target := ⟨Url.spellPath url.path, url.query⟩ } else none := by
  split
  · next hsize =>
    have hparse : Target.parse? (String.ofList url.target) =
        some ⟨Url.spellPath url.path, url.query⟩ :=
      Target.parse?_target hpath hchars hquery (url.size_target_le.trans hsize)
    rw [Line.requestFor?, if_neg (Nat.not_lt.2 hsize), hparse]
    rfl
  · next hsize => rw [Line.requestFor?, if_pos (Nat.lt_of_not_le hsize)]

/-! ### The response -/

namespace Service

theorem status_mark (p : Http.OriginPolicy) (request : Request) (response : Response) :
    (p.mark request response).status = response.status := by
  unfold Http.OriginPolicy.mark
  split <;> rfl

theorem body_mark (p : Http.OriginPolicy) (request : Request) (response : Response) :
    (p.mark request response).body = response.body := by
  unfold Http.OriginPolicy.mark
  split <;> rfl

/-- A registry of any stores answers a question for one of its resources. -/
theorem serveRegistry_get {σ : Type} (stores : MasterStore σ) (origins : List String)
    (stamp : Stamp) (uptime : Nat) {request : Request} {resource : RegistryResource}
    (hmethod : request.method = "GET")
    (hpath : RegistryResource.ofPath? request.target.path = some resource) (s : σ) :
    serveRegistry stores origins stamp uptime request s =
      ((serveResource stores stamp uptime request resource s).1.map
        ((registryOrigins origins).mark request),
      (serveResource stores stamp uptime request resource s).2) := by
  have hnot : request.method ≠ "OPTIONS" := ne_of_eq_of_ne hmethod (by decide)
  simp only [serveRegistry, serveUnder, if_neg hnot, hpath]

end Service

/-! ### The reply -/

namespace Client

variable {σ α : Type} {decode : Json → Json.Decoded α} {name : String}

/-- A success with a written tree is decoded from the tree. -/
theorem read_of_success {r : Response} {v : Json} (hstatus : r.status = 200)
    (hbody : r.body = v.render) (hplain : v.isPlain = true) :
    read decode name (Line.replyOf r) = (decode v).restate (RemoteError.ofDecodeFault name) := by
  have hsuccess : (Line.replyOf r).isSuccess = true := by
    rw [Reply.isSuccess, show (Line.replyOf r).status = 200 from hstatus]
    rfl
  have hdecode : Json.decode decode (Text.Utf8.decode (Text.Utf8.encode r.body.toList)) =
      decode v := by
    rw [Text.Utf8.decode_encode, hbody, ← Json.decodeText_render hplain decode]
    rfl
  rw [read, if_pos hsuccess, ← hdecode]
  rfl

/-- What is no success is told by its status. -/
theorem read_of_failure {r : Response} (hstatus : r.status < 200 ∨ 300 ≤ r.status) :
    read decode name (Line.replyOf r) = .refuse (.status name r.status) := by
  have hfailure : (Line.replyOf r).isSuccess = false := by
    rw [Reply.isSuccess, Bool.and_eq_false_iff, decide_eq_false_iff_not, decide_eq_false_iff_not,
      show (Line.replyOf r).status = r.status from rfl]
    omega
  rw [read, if_neg (Bool.eq_false_iff.1 hfailure)]
  rfl

variable {network : Network σ} {url : Url} {s s' : σ}

/-- The first reply is the answer, unless it sends the asker elsewhere. -/
theorem fetch_of_reply {reply : Reply} (hput : network.put url s = (.ok reply, s'))
    (hstays : Reply.isRedirect reply.status = false) :
    fetch network decode name url s = (read decode name reply, s') := by
  have helsewhere : reply.elsewhere? url = none := if_neg (Bool.eq_false_iff.1 hstays)
  have hfollow : network.follow Network.patience url s = (.ok reply, s') := by
    rw [Network.follow, hput]
    simp only [helsewhere]
  simp only [fetch, hfollow]

/-- A fault of the network is a failure to ask. -/
theorem fetch_of_fault {fault : NetworkFault} (hput : network.put url s = (.error fault, s')) :
    fetch network decode name url s = (.refuse (.ofFault name fault), s') := by
  have hfollow : network.follow Network.patience url s = (.error fault, s') := by
    rw [Network.follow, hput]
  simp only [fetch, hfollow]

end Client

end ContributionRegistry
