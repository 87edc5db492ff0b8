/-!
Text cut at a separator. There is one part more than there are separators, and the parts
may be empty.
-/
namespace EventBroker.Text

def partsBetween {α : Type} [DecidableEq α] (separator : α) : List α → List (List α)
  | [] => [[]]
  | c :: rest =>
    if c = separator then [] :: partsBetween separator rest
    else
      match partsBetween separator rest with
      | [] => [[c]]
      | part :: parts => (c :: part) :: parts

end EventBroker.Text
