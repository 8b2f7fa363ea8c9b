import Workpad.Fetch.Offline

/-!
The limit of size on what is fetched. It is looked at twice, where a length is declared and where the
body is there; for a server that declares what it sends, or nothing, both come to the same. What an
address is plays no part in it, beyond its scheme.
-/
namespace Workpad.Fetch

/-- What a server has under a location. It sends all of it, and says how much that is or does not. -/
structure Page where
  status : Nat
  body : ByteArray
  declares : Bool

def Page.response (page : Page) : Response where
  status := page.status
  declared := if page.declares then some page.body.size else none
  body := .ok page.body

theorem isSuccess_iff (status : Nat) : isSuccess status = true ↔ status / 100 = 2 := by
  rw [isSuccess, Bool.and_eq_true, decide_eq_true_iff, decide_eq_true_iff]
  omega

/-- What a body comes to once it is there. -/
theorem body_response (limit : Nat) (page : Page) : accept.body limit page.response =
    if page.body.size ≤ limit then .ok page.body else .error (.tooLarge page.body.size limit) := by
  by_cases fits : page.body.size ≤ limit
  · have room : ¬ limit < page.body.size := Nat.not_lt.mpr fits
    simp only [accept.body, Page.response, if_neg room, if_pos fits]
  · have long : limit < page.body.size := Nat.lt_of_not_le fits
    simp only [accept.body, Page.response, if_pos long, if_neg fits]

/-- A declared length is refused just if the body would be, and in the same words. -/
theorem accept_of_success {page : Page} (success : page.status / 100 = 2) (limit : Nat) :
    accept limit page.response = accept.body limit page.response := by
  have accepted : isSuccess page.response.status = true := (isSuccess_iff page.status).mpr success
  rw [accept, accepted]
  cases declares : page.declares with
  | false => simp [Page.response, declares]
  | true =>
    have declared : page.response.declared = some page.body.size := by
      rw [Page.response, declares, if_pos rfl]
    rw [declared]
    by_cases long : limit < page.body.size
    · simp [long, body_response]
    · simp [long]

theorem accept_of_no_success {page : Page} (failure : page.status / 100 ≠ 2) (limit : Nat) :
    accept limit page.response = .error (.status page.status) := by
  have refused : isSuccess page.response.status = false :=
    Bool.eq_false_iff.mpr fun accepted => failure ((isSuccess_iff page.status).mp accepted)
  rw [accept, refused]
  rfl

section
variable {α ρ : Type} {client : Client α} {factory : String → ByteArray → Except String ρ}
variable {limit : Nat} {location why : String} {a : α} {e : Failure} {bytes : ByteArray}

theorem target_of_error (h : client.parse location = .error why) :
    target client location = .error (.location why) := by
  rw [target, h]

theorem target_of_web (h : client.parse location = .ok a)
    (web : client.scheme a = "http" ∨ client.scheme a = "https") :
    target client location = .ok a := by
  rw [target, h]
  exact if_neg fun ⟨http, https⟩ => web.elim http https

theorem target_of_not_web (h : client.parse location = .ok a)
    (other : ¬(client.scheme a = "http" ∨ client.scheme a = "https")) :
    target client location = .error (.scheme (client.scheme a)) := by
  rw [target, h]
  exact if_pos (not_or.mp other)

theorem load_of_no_target (h : target client location = .error e) :
    load client factory limit location = { result := .error e.message } := by
  simp only [load, h]

theorem load_of_refused (h : target client location = .ok a)
    (refused : receive limit (client.send a) = .error e) :
    load client factory limit location = { result := .error e.message, asked := [a] } := by
  simp only [load, h, refused]

theorem load_of_received (h : target client location = .ok a)
    (received : receive limit (client.send a) = .ok bytes) :
    load client factory limit location =
      { result := factory location bytes
        asked := [a]
        instantiated := [(location, bytes)] } := by
  simp only [load, h, received]

end

/-- Whatever reads addresses and whatever servers give, with its length declared or not: a text that is
no address, or none of the web, fails before anything is asked. Any other asks once. A success with a
body up to the limit is handed over once, as it is, and what the factory makes of it is the result; a
longer body is refused with its length and the limit, and any other status is refused whatever the
body. -/
theorem load_keeps_limit {α ρ : Type} (parse : String → Except String α) (scheme : α → String)
    (pages : α → Page) (factory : String → ByteArray → Except String ρ) (limit : Nat)
    (location : String) :
    let client : Client α := { parse, scheme, send := fun a => .answered (pages a).response }
    let loaded := load client factory limit location
    match parse location with
    | .error why =>
      loaded.result = .error ("invalid runtime location: " ++ why) ∧
        loaded.asked = [] ∧ loaded.instantiated = []
    | .ok a =>
      let page := pages a
      if scheme a = "http" ∨ scheme a = "https" then
        loaded.asked = [a] ∧
        if page.status / 100 = 2 then
          if page.body.size ≤ limit then
            loaded.instantiated = [(location, page.body)] ∧
              loaded.result = factory location page.body
          else
            loaded.instantiated = [] ∧
              loaded.result = .error ("runtime too large: " ++ toString page.body.size ++
                " bytes (max: " ++ toString limit ++ " bytes)")
        else
          loaded.instantiated = [] ∧
            loaded.result = .error ("failed to fetch the runtime: HTTP " ++ statusText page.status)
      else
        loaded.result = .error ("unsupported runtime location scheme: " ++ scheme a) ∧
          loaded.asked = [] ∧ loaded.instantiated = [] := by
  intro client loaded
  cases place : parse location with
  | error why =>
    have nothing : loaded = _ := load_of_no_target (target_of_error place)
    rw [nothing]
    exact ⟨rfl, rfl, rfl⟩
  | ok a =>
    simp only
    split
    next web =>
      have asked : target client location = .ok a := target_of_web place web
      split
      next success =>
        have accepted := accept_of_success success limit
        rw [body_response] at accepted
        split
        next fits =>
          rw [if_pos fits] at accepted
          have done : loaded = _ := load_of_received asked accepted
          rw [done]
          exact ⟨rfl, rfl, rfl⟩
        next long =>
          rw [if_neg long] at accepted
          have done : loaded = _ := load_of_refused asked accepted
          rw [done]
          exact ⟨rfl, rfl, rfl⟩
      next failure =>
        have done : loaded = _ := load_of_refused asked (accept_of_no_success failure limit)
        rw [done]
        exact ⟨rfl, rfl, rfl⟩
    next other =>
      have nothing : loaded = _ := load_of_no_target (target_of_not_web place other)
      rw [nothing]
      exact ⟨rfl, rfl, rfl⟩

/-- Two bytes at an address of the web, as many as the limit allows and one more than that. -/
theorem load_keeps_limit_two_bytes :
    let page : Page := { status := 200, body := ⟨#[0, 1]⟩, declares := true }
    let client : Client Location := { Client.offline with send := fun _ => .answered page.response }
    let load (limit : Nat) := load client (fun _ bytes => .ok bytes.size) limit "http://h/x"
    (load 2).instantiated = [("http://h/x", page.body)] ∧ (load 1).instantiated = [] ∧
      (load 1).result = .error "runtime too large: 2 bytes (max: 1 bytes)" := by
  intro page client load
  let a : Location :=
    { scheme := "http".toList, host := some (.domain ['h']), path := "/x".toList }
  have place : Client.offline.parse "http://h/x" = .ok a := rfl
  have web : Client.offline.scheme a = "http" := rfl
  have success : page.status / 100 = 2 := by decide
  have size : page.body.size = 2 := by decide
  have kept (limit : Nat) := load_keeps_limit Client.offline.parse Client.offline.scheme
    (fun _ => page) (fun _ bytes => (.ok bytes.size : Except String Nat)) limit "http://h/x"
  simp only [place, web, true_or, if_true, success, size] at kept
  exact ⟨(kept 2).2.1, (kept 1).2.1, (kept 1).2.2⟩

end Workpad.Fetch
