import HomeAutomation.Text.Blank
import HomeAutomation.Text.Lowercase
import HomeAutomation.Text.Part

/-!
# Messages for people

Messages of errors are written for those who run the system. `friendly` turns one into a short text
that can be shown to anybody: expired sessions and network trouble have texts of their own, and a
message that is long or names an address is not passed on.
-/

namespace HomeAutomation

open Text

namespace Friendly

def sessionPhrases : List String := ["session expired", "expired session", "unauthorized", "401"]

def networkPhrases : List String :=
  ["network", "timed out", "timeout", "unreachable", "unable to reach"]

def sessionText : String := "Session expired. Please log in again."

def networkText : String :=
  "We could not reach your home right now. Check Wi-Fi and try again."

def otherText : String := "We could not complete that right now. Please try again."

def maxLength : Nat := 200

/-- A character that is the letter in either case. The long s is an s as well. -/
def isLetter (letter c : Char) : Bool :=
  c.toLower == letter || (letter == 's' && c == Char.ofNat 0x17F)

def startsWith (letters s : List Char) : Bool :=
  letters.length ≤ s.length && (letters.zip s).all fun (letter, c) => isLetter letter c

def namesAddress : List Char → Bool
  | [] => false
  | c :: rest =>
    startsWith "http://".toList (c :: rest) || startsWith "https://".toList (c :: rest) ||
      namesAddress rest

end Friendly

open Friendly in
def friendly (message : String) : String :=
  let text := strip message
  let lowered := lower text
  if sessionPhrases.any (contains · lowered) then sessionText
  else if networkPhrases.any (contains · lowered) then networkText
  else if !text.isEmpty && text.toList.length ≤ maxLength && !namesAddress text.toList then text
  else otherText

end HomeAutomation
