import AgentDesktop.Role

/-!
# Capabilities

The actions an element can advertise, and the rule that decides which elements
receive a ref: an interactive role, or an advertised action that is more than
an affordance every element offers.
-/

namespace AgentDesktop

namespace Capability

def click : String := "Click"
def rightClick : String := "RightClick"
def setValue : String := "SetValue"
def setFocus : String := "SetFocus"
def expand : String := "Expand"
def collapse : String := "Collapse"
def select : String := "Select"
def toggle : String := "Toggle"
def scroll : String := "Scroll"
def scrollTo : String := "ScrollTo"
def pressKey : String := "PressKey"
def keyDown : String := "KeyDown"
def keyUp : String := "KeyUp"
def typeText : String := "TypeText"
def hover : String := "Hover"
def drag : String := "Drag"

/-- `capability::contains`. -/
def contains (actions : List String) (capability : String) : Bool :=
  actions.any (fun action => action == capability)

/-- `capability::contains_any`. -/
def containsAny (actions capabilities : List String) : Bool :=
  capabilities.any (fun capability => contains actions capability)

end Capability

/-- `UBIQUITOUS_AFFORDANCES`. -/
def ubiquitousAffordances : List String :=
  [Capability.setFocus, Capability.rightClick, Capability.scrollTo]

/-- `advertises_primary_action`. -/
def advertisesPrimaryAction (availableActions : List String) : Bool :=
  availableActions.any (fun action => !ubiquitousAffordances.contains action)

/-- `is_ref_able_role_actions`. -/
def isRefAbleRoleActions (role : String) (availableActions : List String) : Bool :=
  Roles.interactiveRoles.contains role || advertisesPrimaryAction availableActions

end AgentDesktop
