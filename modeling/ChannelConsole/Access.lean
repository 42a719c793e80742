import ChannelConsole.Text.Search
import ChannelConsole.Text.Digits

/-!
# Admin tokens

Who knows the password gets a token, and whoever shows the token is let in until the token ends or
is given back. Times are in millionths of a second.

## Main definitions

* `Access`: the tokens that were given out.
* `Access.issue`, `Access.revoke`: a token is given out, or given back.
* `Access.admits`: whether a token lets one in.
* `Access.sweep`: forget the tokens that have ended.
* `Access.letIn`: the decision about a request.

## Main statements

* `Access.tokenText_injective`: no two tokens have the same text.
* `Access.admits_issue`: a new token lets one in until it ends.
* `Access.admits_revoke`: giving back a token shuts out that token and no other one.
* `Access.admits_sweep`: forgetting tokens shuts out nobody.
-/

namespace ChannelConsole

/-- A token and the time at which it ends. -/
structure Access.Token where
  text : Text
  endsAt : Int
deriving DecidableEq

/-- How many tokens were ever given out, and those that are kept. -/
structure Access where
  issued : Nat := 0
  tokens : List Access.Token := []
deriving DecidableEq

namespace Access

/-- The text of the token that is given out after so many others. -/
def tokenText (issued : Nat) : Text := "token-" ++ Text.ofInt (issued + 1 : Nat)

/-- Give out a token that lasts for a time. -/
def issue (a : Access) (now lifetime : Int) : Access × Text :=
  let text := tokenText a.issued
  ({ issued := a.issued + 1, tokens := a.tokens ++ [{ text, endsAt := now + lifetime }] }, text)

/-- Whether a token lets one in. -/
def admits (a : Access) (now : Int) (text : Text) : Bool :=
  a.tokens.any fun t => t.text == text && now < t.endsAt

/-- Take a token back. -/
def revoke (a : Access) (text : Text) : Access :=
  { a with tokens := a.tokens.filter (·.text ≠ text) }

/-- Forget the tokens that have ended. -/
def sweep (a : Access) (now : Int) : Access :=
  { a with tokens := a.tokens.filter fun t => now ≤ t.endsAt }

/-! ### Requests -/

/-- Why a request is turned away. -/
inductive Refusal where
  | missing
  | invalid
deriving DecidableEq

/-- What is said to whom is turned away. -/
def Refusal.message : Refusal → Text
  | .missing => "Missing authentication token"
  | .invalid => "Invalid or expired token"

/-- The token in a header, which is what comes behind the word for its kind and a space. -/
def shown? (header? : Option Text) : Option Text :=
  match header? with
  | none => none
  | some header =>
    if Text.beginsWith "Bearer " header then
      let text := Text.ofList (header.toList.drop 7)
      if text.isEmpty then none else some text
    else none

/-- The token with which a request is let in. -/
def letIn (a : Access) (now : Int) (header? : Option Text) : Except Refusal Text :=
  match shown? header? with
  | none => .error .missing
  | some text => if a.admits now text then .ok text else .error .invalid

/-! ### Small facts -/

/-- A header that carries a token shows it, unless it is empty. -/
theorem shown?_bearer (token : Text) :
    shown? (some ("Bearer " ++ token)) = if token = "" then none else some token := by
  have hbegin : Text.beginsWith "Bearer " ("Bearer " ++ token) = true := by
    rw [Text.beginsWith, Text.toList_append, List.isPrefixOf_iff_prefix]
    exact List.prefix_append _ _
  have hrest : Text.ofList (("Bearer " ++ token).toList.drop 7) = token := by
    rw [Text.toList_append]
    exact Text.ofList_toList
  simp only [shown?, hbegin, hrest, if_true, Text.isEmpty_iff]

/-- A request is let in with the token that it shows. -/
theorem letIn_eq_ok_iff {a : Access} {now : Int} {header? : Option Text} {text : Text} :
    a.letIn now header? = .ok text ↔ shown? header? = some text ∧ a.admits now text = true := by
  unfold letIn
  cases shown? header? with
  | none => simp
  | some shown =>
    by_cases h : a.admits now shown
    · simp only [h, if_true, Except.ok.injEq, Option.some.injEq]
      exact ⟨fun heq => ⟨heq, heq ▸ h⟩, And.left⟩
    · simp only [h, Bool.false_eq_true, if_false, reduceCtorEq, Option.some.injEq, false_iff]
      rintro ⟨rfl, hadmits⟩
      exact h hadmits

/-- No two tokens have the same text. -/
theorem tokenText_injective {m n : Nat} (h : tokenText m = tokenText n) : m = n := by
  have hl := congrArg Text.toList h
  simp only [tokenText, Text.toList_append, Text.ofInt, Text.toList_ofList] at hl
  exact Nat.succ.inj (Text.ofNat_injective (List.append_cancel_left hl))

/-- A new token lets one in until it ends, and the others let one in as before. -/
theorem admits_issue (a : Access) (start lifetime now : Int) (text : Text) :
    (a.issue start lifetime).1.admits now text =
      (a.admits now text || (text == tokenText a.issued && now < start + lifetime)) := by
  simp [issue, admits, Bool.beq_comm]

/-- Giving back a token shuts out that token and no other one. -/
theorem admits_revoke (a : Access) (now : Int) (text other : Text) :
    (a.revoke text).admits now other = (a.admits now other && other != text) := by
  simp only [revoke, admits, List.any_filter]
  by_cases h : other = text
  · subst h
    simp only [bne_self_eq_false, Bool.and_false, List.any_eq_false]
    grind
  · have hb : (other != text) = true := by simpa using h
    rw [hb, Bool.and_true]
    congr 1
    funext t
    by_cases ht : t.text = other <;> simp_all

/-- Forgetting the tokens that have ended shuts out nobody. -/
theorem admits_sweep (a : Access) (now later : Int) (text : Text) (h : now ≤ later) :
    (a.sweep now).admits later text = a.admits later text := by
  simp only [sweep, admits, List.any_filter]
  congr 1
  funext t
  by_cases ht : later < t.endsAt <;> simp [ht]
  omega

end Access

end ChannelConsole
