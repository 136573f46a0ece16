import Parley.Channel.Microblog
import Parley.Proofs.Conversation.LastWord

/-!
# Answers to posts

A post is routed as a message of its author. What is posted in return are the replies of the
outcomes, in order and whether or not a posting fails; what is pending changes for the author only.

## Main definitions

- `Microblog.answers` — what is posted for outcomes
- `Microblog.deliveries`, `Microblog.stateAfter` — posts that are answered one after the other

## Main results

- `Router.route_of_consulted` — a message that goes to one group
- `Microblog.deliver_of_ok` — a post whose routing ends well is answered
-/

namespace Parley

variable {γ : Type}

namespace Router

variable (r : Router γ) {m : Message} {key : String} {g : γ} {s : Store γ} {o : Outcome γ}

/-- A message that goes to one group has its outcome, and the invocations decide what is pending
for the sender. -/
theorem route_of_consulted (hkey : m.get? r.keyFacet = some key) (hgroup : r.consulted s m = [g])
    (ho : (r.dispatcher.dispatch m (r.group g)).result = .ok o) :
    (r.route m s).result = .ok [o] ∧
      ∀ k, (r.route m s).state.get? k =
        if k = key then entryAfter none (o.invocations.map fun i => (g, i)) else s.get? k := by
  obtain ⟨logged, -, hroute⟩ := r.route_eq m s
  have hdeliver : r.deliver m (some key) g (s.erase key) = _ := r.deliver_some_of_ok m ho _
  have heach : (r.deliverEach m (some key) [g] (s.erase key)).result = .ok [o] := by
    have hfirst : (r.deliver m (some key) g (s.erase key)).result = .ok o := by rw [hdeliver]
    rw [deliverEach, Act.bind_apply_of_ok hfirst]
    rfl
  have hresult : (r.route m s).result = .ok [o] := by
    rw [hroute, hkey, hgroup]
    exact heach
  refine ⟨hresult, fun k => ?_⟩
  split
  · next hk =>
    subst hk
    obtain ⟨-, -, -, hentry⟩ := r.deliverEach_apply m heach
    rw [hroute, hkey, hgroup]
    have h := hentry k rfl
    rw [Table.get?_erase, if_pos rfl] at h
    refine h.trans ?_
    simp [invocationsOf]
  · next hk =>
    have hne : m.get? r.keyFacet ≠ some k := by
      rw [hkey]
      exact fun h => hk (Option.some.inj h).symm
    exact r.spares_route m hne s

end Router

namespace Microblog

variable (c : Microblog γ) {post : Post} {s : State γ} {os : List (Outcome γ)}

/-- What is posted for outcomes. -/
def answers (post : Post) (os : List (Outcome γ)) : List Posting :=
  ((os.flatMap Outcome.replies).filterMap (c.render post.user)).map fun text =>
    ⟨text, some post.id⟩

/-- Texts are posted in order, whether or not that fails. -/
theorem sendEach_apply (post : Post) (texts : List String) (s : State γ) :
    ∃ es, c.sendEach post texts s =
      ⟨{ s with postings := s.postings ++ texts.map fun text => ⟨text, some post.id⟩ }, es,
        .ok ()⟩ := by
  induction texts generalizing s with
  | nil => exact ⟨[], by rw [List.map_nil, List.append_nil]; rfl⟩
  | cons text rest ih =>
    obtain ⟨es, hrest⟩ := ih { s with postings := s.postings ++ [⟨text, some post.id⟩] }
    rw [List.append_assoc] at hrest
    unfold sendEach
    cases hfails : c.fails s.postings.length with
    | true =>
      let failed : Event := .logged ⟨.warn, "Reply post failed", [("user", post.user)]⟩
      refine ⟨[] ++ ([] ++ ([failed] ++ es)), Act.bind_eq rfl (Act.bind_eq rfl ?_)⟩
      rw [if_pos hfails]
      exact Act.bind_eq (Act.log_apply ..) hrest
    | false =>
      refine ⟨[] ++ ([] ++ es), Act.bind_eq rfl (Act.bind_eq rfl ?_)⟩
      rw [if_neg (by simp [hfails])]
      exact hrest

/-- A post whose routing ends well is answered with the replies. -/
theorem deliver_of_ok (h : (c.router.route (message post) s.store).result = .ok os) :
    ∃ es, c.deliver post s =
      ⟨⟨(c.router.route (message post) s.store).state, s.postings ++ c.answers post os⟩, es,
        .ok os⟩ := by
  obtain ⟨es, hsend⟩ := c.sendEach_apply post
    ((os.flatMap Outcome.replies).filterMap (c.render post.user))
    { s with store := (c.router.route (message post) s.store).state }
  have hzoom : Act.zoom State.store (fun store s => { s with store })
      (c.router.route (message post)) s =
        ⟨{ s with store := (c.router.route (message post) s.store).state },
          (c.router.route (message post) s.store).events, .ok os⟩ := by
    rw [← h]
    rfl
  unfold deliver
  exact ⟨_, Act.bind_eq (Act.log_apply ..) (Act.bind_eq hzoom (Act.bind_eq hsend rfl))⟩

/-- Posts are answered one after the other; after a panic the next one is. -/
def deliveries : State γ → List Post → List (Step (State γ) (List (Outcome γ)))
  | _, [] => []
  | s, post :: rest => c.deliver post s :: deliveries (c.deliver post s).state rest

/-- The state after posts are answered one after the other. -/
def stateAfter (s : State γ) (posts : List Post) : State γ :=
  posts.foldl (fun s post => (c.deliver post s).state) s

end Microblog

end Parley
