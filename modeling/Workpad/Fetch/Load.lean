import Workpad.Fetch.Status

/-!
Loading an interpreter from a location: the artifact is fetched under a limit of size and given to a
factory. Which texts are addresses, and what is answered at an address, is the client's to say. What a
load did to the outside, requests sent and artifacts handed over, comes back with its result.
-/
namespace Workpad.Fetch

/-- A final response. A body that breaks off has the reason in its place. -/
structure Response where
  status : Nat
  declared : Option Nat := none
  body : Except String ByteArray

inductive Exchange where
  | failed (reason : String)
  | timedOut
  | answered (r : Response)

/-- What reads addresses and sends requests to them. -/
structure Client (α : Type) where
  parse : String → Except String α
  scheme : α → String
  send : α → Exchange

inductive Failure where
  | location (why : String)
  | scheme (name : String)
  | exchange (reason : String)
  | timedOut
  | status (code : Nat)
  | tooLarge (size limit : Nat)
  | broken (reason : String)

def Failure.message : Failure → String
  | .location why => "invalid runtime location: " ++ why
  | .scheme name => "unsupported runtime location scheme: " ++ name
  | .exchange reason => "failed to fetch the runtime: " ++ reason
  | .timedOut => "timed out fetching the runtime"
  | .status code => "failed to fetch the runtime: HTTP " ++ statusText code
  | .tooLarge size limit =>
    "runtime too large: " ++ toString size ++ " bytes (max: " ++ toString limit ++ " bytes)"
  | .broken reason => "failed to read the runtime: " ++ reason

section
variable {α ρ : Type}

def target (client : Client α) (location : String) : Except Failure α :=
  match client.parse location with
  | .error why => .error (.location why)
  | .ok a =>
    if client.scheme a ≠ "http" ∧ client.scheme a ≠ "https" then .error (.scheme (client.scheme a))
    else .ok a

/-- The artifact of a response. A declared length over the limit is refused before the body is
read. -/
def accept (limit : Nat) (r : Response) : Except Failure ByteArray :=
  if !isSuccess r.status then .error (.status r.status)
  else match r.declared with
    | some n => if limit < n then .error (.tooLarge n limit) else body
    | none => body
where
  body : Except Failure ByteArray :=
    match r.body with
    | .error reason => .error (.broken reason)
    | .ok b => if limit < b.size then .error (.tooLarge b.size limit) else .ok b

def receive (limit : Nat) : Exchange → Except Failure ByteArray
  | .failed reason => .error (.exchange reason)
  | .timedOut => .error .timedOut
  | .answered r => accept limit r

structure Loaded (α ρ : Type) where
  result : Except String ρ
  asked : List α := []
  instantiated : List (String × ByteArray) := []

def load (client : Client α) (factory : String → ByteArray → Except String ρ) (limit : Nat)
    (location : String) : Loaded α ρ :=
  match target client location with
  | .error e => { result := .error e.message }
  | .ok a =>
    match receive limit (client.send a) with
    | .error e => { result := .error e.message, asked := [a] }
    | .ok bytes =>
      { result := factory location bytes, asked := [a], instantiated := [(location, bytes)] }

end

end Workpad.Fetch
