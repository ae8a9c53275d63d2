import StorageController.Cluster.Api

namespace StorageController

/-- The replies that are left for each operation. -/
abbrev Script := List (String × List Reply)

namespace Script

/-- The next reply of a list, and what is left of the list. -/
def next : List Reply → Reply × List Reply
  | [] => (.ok (.obj []), [])
  | [reply] => (reply, [reply])
  | reply :: rest => (reply, rest)

def answer (request : Request) : Script → Reply × Script
  | [] => (.ok (.obj []), [])
  | (operation, replies) :: rest =>
    if operation = request.operation then
      ((next replies).1, (operation, (next replies).2) :: rest)
    else
      let (reply, left) := answer request rest
      (reply, (operation, replies) :: left)

end Script

end StorageController
