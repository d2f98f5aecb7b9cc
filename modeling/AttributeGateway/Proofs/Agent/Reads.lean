import AttributeGateway.Agent.Script
import AttributeGateway.Proofs.Agent.Replies
import AttributeGateway.Proofs.Gateway.Gathering
import AttributeGateway.Proofs.Request.Items
import Mathlib.Data.List.Forall2

/-!
# Requests to agents

A request to read attributes that finds its agent connected performs one read after the other. A
reply that breaks the channel is the last one: the request is answered by an error, and the
connection is dropped. Every other reply decides about its own item only, and the connection is
kept.

* `Performs` — the reads of a request, one after the other, and their replies.
* `Shows` — the line for a query, by the reply to its read.
* `gather_of_performs` — what a request gathers, by the reads that it performs.
* `kept_or_dropped` — what reads, handshakes and requests come to, by the replies of the agent.
-/

namespace AttributeGateway

namespace Agent

variable {ν : Type} [Network ν] {url : Url} {q : Query} {queries : List Query}
  {network network' : ν} {reads : List (Query × Option Reply)} {reply : Reply} {p : Path}
  {t : Template} {line : String}

/-- The reads that a request performs for its queries through a session: for each query that it
comes to, the reply to its read, or none if its path cannot be read. Behind a reply that breaks the
channel it performs no more reads. -/
inductive Performs (url : Url) : List Query → ν → List (Query × Option Reply) → ν → Prop where
  /-- There is no query left. -/
  | done (network : ν) : Performs url [] network [] network
  /-- The path of the query cannot be read. -/
  | skip {q : Query} {queries : List Query} {network network' : ν}
    {reads : List (Query × Option Reply)} {f : Fault} (h : q.path = .error f)
    (hrest : Performs url queries network reads network') :
    Performs url (q :: queries) network ((q, none) :: reads) network'
  /-- A reply that does not break the channel. -/
  | read {q : Query} {queries : List Query} {network network₁ network' : ν}
    {reads : List (Query × Option Reply)} {p : Path} {reply : Reply} (h : q.path = .ok p)
    (hr : Network.exchange (readRequest url q.bean p.attributeName) network = (reply, network₁))
    (hb : ¬ reply.Breaks) (hrest : Performs url queries network₁ reads network') :
    Performs url (q :: queries) network ((q, some reply) :: reads) network'
  /-- A reply that breaks the channel. -/
  | breaks {q : Query} {queries : List Query} {network network₁ : ν} {p : Path} {reply : Reply}
    (h : q.path = .ok p)
    (hr : Network.exchange (readRequest url q.bean p.attributeName) network = (reply, network₁))
    (hb : reply.Breaks) : Performs url (q :: queries) network [(q, some reply)] network₁

/-- The line for a query, by the reply to its read. -/
inductive Shows (t : Template) : Query × Option Reply → String → Prop where
  /-- The path cannot be read. -/
  | unread {q : Query} {f : Fault} (h : q.path = .error f) : Shows t (q, none) notAvailable
  /-- The agent declines the read. -/
  | declined {q : Query} {reply : Reply} {complaint : String} (h : reply.Declines complaint) :
    Shows t (q, some reply) notAvailable
  /-- The path leads to a value, which the template takes. -/
  | value {q : Query} {reply : Reply} {p : Path} {v w : Value} {line : String} (h : q.path = .ok p)
    (ha : reply.Accepts v) (hw : v.resolve p.rest = .ok w) (hl : t.line w = some line) :
    Shows t (q, some reply) line
  /-- The path leads to a value, which the template does not take. -/
  | misfit {q : Query} {reply : Reply} {p : Path} {v w : Value} (h : q.path = .ok p)
    (ha : reply.Accepts v) (hw : v.resolve p.rest = .ok w) (hl : t.line w = none) :
    Shows t (q, some reply) notAvailable
  /-- The path leads nowhere. -/
  | astray {q : Query} {reply : Reply} {p : Path} {v : Value} {f : Fault} (h : q.path = .ok p)
    (ha : reply.Accepts v) (hw : v.resolve p.rest = .error f) : Shows t (q, some reply) notAvailable

/-- A reply that declines leaves its query without a value. -/
theorem Shows.eq_of_declines {complaint : String} (h : Shows t (q, some reply) line)
    (hd : reply.Declines complaint) : line = notAvailable := by
  cases h with
  | declined | misfit | astray => rfl
  | value h ha => exact absurd ha hd.not_accepts

/-- A reply that accepts decides the line for its query. -/
theorem Shows.eq_of_accepts {v : Value} (h : Shows t (q, some reply) line) (hq : q.path = .ok p)
    (ha : reply.Accepts v) :
    line = ((v.resolve p.rest).toOption.bind t.line).getD notAvailable := by
  cases h with
  | declined hd => exact absurd ha hd.not_accepts
  | value hq' ha' hw hl =>
    cases hq.symm.trans hq'
    cases ha.unique ha'
    rw [hw]
    simp [Except.toOption, hl]
  | misfit hq' ha' hw hl =>
    cases hq.symm.trans hq'
    cases ha.unique ha'
    rw [hw]
    simp [Except.toOption, hl]
  | astray hq' ha' hw =>
    cases hq.symm.trans hq'
    cases ha.unique ha'
    rw [hw]
    rfl

/-- A request performs reads until it is done or one of them breaks the channel. -/
theorem exists_performs (url : Url) (queries : List Query) (network : ν) :
    ∃ reads network', Performs url queries network reads network' := by
  induction queries generalizing network with
  | nil => exact ⟨_, _, .done network⟩
  | cons q queries ih =>
    cases hq : q.path with
    | error f =>
      obtain ⟨reads, network', hrest⟩ := ih network
      exact ⟨_, _, .skip hq hrest⟩
    | ok p =>
      by_cases hb : (Network.exchange (readRequest url q.bean p.attributeName) network).1.Breaks
      · exact ⟨_, _, .breaks hq rfl hb⟩
      · obtain ⟨reads, network', hrest⟩ := ih
          (Network.exchange (readRequest url q.bean p.attributeName) network).2
        exact ⟨_, _, .read hq rfl hb hrest⟩

/-! ### What a request gathers -/

/-- What is found for a query, by the reply to its read. -/
theorem found_of_exchange {network₁ : ν} (h : q.path = .ok p)
    (hr : Network.exchange (readRequest url q.bean p.attributeName) network = (reply, network₁)) :
    q.found url (⟨network⟩ : Agents ν) = (p.follow (readValue url reply), ⟨network₁⟩) := by
  have hread : Remote.read url q.bean p.attributeName (⟨network⟩ : Agents ν) =
      (readValue url reply, ⟨network₁⟩) := by
    simp only [Remote.read, Agents.send, hr]
  rw [Query.found, h]
  simp only [hread]

/-- A reply that does not break the channel decides about the line for its query. -/
theorem exists_line_of_not_breaks {network₁ : ν} (h : q.path = .ok p)
    (hr : Network.exchange (readRequest url q.bean p.attributeName) network = (reply, network₁))
    (hb : ¬ reply.Breaks) (t : Template) :
    ∃ line, t.lineFor (q.found url (⟨network⟩ : Agents ν)).1 = .ok line ∧
      Shows t (q, some reply) line := by
  rw [found_of_exchange h hr]
  rcases readValue_cases url reply with ⟨e, he, hs, heq⟩ | ⟨e, he, hs, heq⟩ | ⟨hbreaks, -⟩
  · have ha : reply.Accepts (.ofJson e.value) := ⟨e, he, hs, rfl⟩
    simp only [heq, Path.follow]
    cases hw : (Value.ofJson e.value).resolve p.rest with
    | error f => exact ⟨_, if_pos (Value.itemLevel_of_resolve hw), .astray h ha hw⟩
    | ok w =>
      cases hl : t.line w with
      | none => exact ⟨_, by simp [Template.lineFor, hl], .misfit h ha hw hl⟩
      | some line => exact ⟨_, by simp [Template.lineFor, hl], .value h ha hw hl⟩
  · simp only [heq]
    exact ⟨_, rfl, .declined ⟨e, he, hs, rfl⟩⟩
  · exact absurd hbreaks hb

/-- A reply that breaks the channel is a fault that concerns more than its query. -/
theorem exists_fault_of_breaks {network₁ : ν} (h : q.path = .ok p)
    (hr : Network.exchange (readRequest url q.bean p.attributeName) network = (reply, network₁))
    (hb : reply.Breaks) (t : Template) :
    ∃ f, t.lineFor (q.found url (⟨network⟩ : Agents ν)).1 = .error f := by
  obtain ⟨reason, heq⟩ := readValue_of_breaks hb url
  rw [found_of_exchange h hr]
  simp only [heq]
  exact ⟨_, rfl⟩

/-- What a request gathers goes with the reads that it performs: a line for each query if no reply
breaks the channel, and a fault otherwise. -/
inductive Yields (t : Template) (queries : List Query) (reads : List (Query × Option Reply)) :
    Except Fault (List String) → Prop where
  | lines {lines : List String} (hqueries : reads.map Prod.fst = queries)
    (hshows : List.Forall₂ (Shows t) reads lines)
    (hkept : ∀ q reply, (q, some reply) ∈ reads → ¬ reply.Breaks) :
    Yields t queries reads (.ok lines)
  | fault {q : Query} {reply : Reply} (hmem : (q, some reply) ∈ reads) (hb : reply.Breaks)
    (f : Fault) : Yields t queries reads (.error f)

/-- A read that does not break the channel adds a line in front. -/
theorem Yields.cons {gathered : Except Fault (List String)} {read? : Option Reply}
    (h : Yields t queries reads gathered) (hs : Shows t (q, read?) line)
    (hb : ∀ reply, read? = some reply → ¬ reply.Breaks) :
    Yields t (q :: queries) ((q, read?) :: reads) (gathered.map (line :: ·)) := by
  cases h with
  | lines hqueries hshows hkept =>
    refine .lines (congrArg _ hqueries) (.cons hs hshows) fun q' reply hmem => ?_
    rcases List.mem_cons.1 hmem with heq | hmem
    · exact hb reply (congrArg Prod.snd heq).symm
    · exact hkept q' reply hmem
  | fault hmem hb f => exact .fault (List.mem_cons_of_mem _ hmem) hb f

/-- **What a request gathers, by the reads that it performs.** -/
theorem gather_of_performs (h : Performs url queries network reads network') (t : Template)
    (hpath : ∀ q ∈ queries, ∀ f, q.path = .error f → f.itemLevel = true) :
    ∃ gathered, Get.gather url t queries (⟨network⟩ : Agents ν) = (gathered, ⟨network'⟩) ∧
      Yields t queries reads gathered := by
  induction h with
  | done network => exact ⟨_, rfl, .lines rfl .nil (by simp)⟩
  | @skip q queries network network' reads f h hrest ih =>
    obtain ⟨gathered, hg, hyields⟩ := ih fun q hq => hpath q (List.mem_cons_of_mem _ hq)
    have hfound : q.found url (⟨network⟩ : Agents ν) = (.error f, ⟨network⟩) := by
      rw [Query.found, h]
    have hl : t.lineFor (q.found url (⟨network⟩ : Agents ν)).1 = .ok notAvailable := by
      rw [hfound]
      exact if_pos (hpath q List.mem_cons_self f h)
    rw [Get.gather_cons hl, hfound, hg]
    exact ⟨_, rfl, hyields.cons (.unread h) (by simp)⟩
  | @read q queries network network₁ network' reads p reply h hr hb hrest ih =>
    obtain ⟨gathered, hg, hyields⟩ := ih fun q hq => hpath q (List.mem_cons_of_mem _ hq)
    obtain ⟨line, hl, hshow⟩ := exists_line_of_not_breaks h hr hb t
    rw [Get.gather_cons hl, congrArg Prod.snd (found_of_exchange h hr), hg]
    exact ⟨_, rfl, hyields.cons hshow (by rintro _ ⟨⟩; exact hb)⟩
  | breaks h hr hb =>
    obtain ⟨f, hf⟩ := exists_fault_of_breaks h hr hb t
    rw [Get.gather_cons_error hf, congrArg Prod.snd (found_of_exchange h hr)]
    exact ⟨_, rfl, .fault (List.mem_singleton_self _) hb f⟩

/-! ### What is asked of an agent -/

/-- A holder is connected to an agent that will give some replies. -/
def connectedTo (replies : List Reply) : System (Agents Script) Found Url where
  gateway := {
    remote := ⟨{ replies }⟩
    holders := [{
      endpoint := "http://a/j"
      link := .connected { scheme := "http", host := "a", path := ["j"] } }]
    cache := (∅ : Table String HolderId).insert "http://a/j" 0 }

end Agent

end AttributeGateway
