import AgentDesktop.Text

/-!
# State tokens

The vocabulary of the states an element can be in, and the test whether a list
of tokens carries one.
-/

namespace AgentDesktop

namespace State

def focused : String := "focused"
def disabled : String := "disabled"
def secure : String := "secure"
def expanded : String := "expanded"
def checked : String := "checked"
def selected : String := "selected"
def hidden : String := "hidden"
def busy : String := "busy"
def modal : String := "modal"
def required : String := "required"
def indeterminate : String := "indeterminate"
def pressed : String := "pressed"
def readonly : String := "readonly"
def offscreen : String := "offscreen"
def invalid : String := "invalid"
def multiselectable : String := "multiselectable"
def haspopup : String := "haspopup"

/-- `STATE_VOCABULARY`. -/
def vocabulary : List String :=
  [focused, disabled, secure, expanded, checked, selected, hidden, busy, modal, required,
    indeterminate, pressed, readonly, offscreen, invalid, multiselectable, haspopup]

/-- `has_state`. -/
def hasState (states : List String) (token : String) : Bool :=
  states.any (fun state => state == token)

@[simp] theorem hasState_nil (token : String) : hasState [] token = false := rfl

end State

end AgentDesktop
