/-!
Toasts: short notices to the user, with a title and perhaps a description.
-/

namespace WormholeMap

/-- How serious a toast is. -/
inductive ToastLevel where
  | info
  | success
  | warning
  | error
  deriving DecidableEq

/-- A notice to the user. -/
structure Toast where
  level : ToastLevel
  title : String
  description : Option String
  deriving DecidableEq

namespace Toast

def info (title : String) : Toast := ⟨.info, title, none⟩
def success (title : String) : Toast := ⟨.success, title, none⟩
def warning (title description : String) : Toast := ⟨.warning, title, some description⟩
def error (title description : String) : Toast := ⟨.error, title, some description⟩

end Toast

/-- The toasts shown and not yet taken, in order. -/
structure ToastLog where
  toasts : List Toast

namespace ToastLog

def empty : ToastLog := ⟨[]⟩

def notify (log : ToastLog) (t : Toast) : ToastLog := ⟨log.toasts ++ [t]⟩

def take (log : ToastLog) : List Toast × ToastLog := (log.toasts, empty)

end ToastLog

end WormholeMap
