import QtAppBase.Qt.Values

/-!
# The socket under the drivers

The three drivers own a `QTcpSocket`. Of its behaviour they rely on the
connection state, on received bytes staying in the socket until `readAll`, and
on `abort` and a new `connectToHost` discarding them. When bytes and errors
arrive is up to the network.
-/

namespace QtAppBase.Qt

/-- `QAbstractSocket::SocketState`, with the host lookup counted as connecting. -/
inductive SocketState where
  | unconnected
  | connecting
  | connected
  | closing
  deriving DecidableEq, Repr

/-- What `connectToHost` does before it returns: it starts, or it emits an error
from inside the call, such as `OperationError` on a socket in use. -/
inductive Launch where
  | started
  | failed (error : QString)
  deriving DecidableEq, Repr

/-- The part of a socket the drivers observe. -/
structure TcpSocket where
  state : SocketState := .unconnected
  unread : QByteArray := []
  deriving DecidableEq, Repr

namespace TcpSocket

/-- What a call of `connectToHost` can do. Only an unconnected socket starts; one that is
looking up, connecting, connected or closing emits `OperationError`. -/
def Admits (s : TcpSocket) (launch : Launch) : Prop := launch = .started → s.state = .unconnected

instance (s : TcpSocket) (launch : Launch) : Decidable (s.Admits launch) :=
  inferInstanceAs (Decidable (_ → _))

/-- An unconnected socket starts connecting, with an empty read buffer, or fails to. A socket
in use refuses the call and stays as it is. -/
def connectToHost (launch : Launch) (s : TcpSocket) : TcpSocket :=
  if s.state = .unconnected then
    match launch with
    | .started => { state := .connecting, unread := [] }
    | .failed _ => { state := .unconnected, unread := [] }
  else s

/-- Drop the connection and everything unread. -/
def abort (_ : TcpSocket) : TcpSocket := {}

/-- The connection is established. -/
def establish (s : TcpSocket) : TcpSocket := { s with state := .connected }

/-- The connection is gone; what had arrived stays readable. -/
def drop (s : TcpSocket) : TcpSocket := { s with state := .unconnected }

/-- Start closing an open connection. -/
def disconnectFromHost (s : TcpSocket) : TcpSocket :=
  match s.state with
  | .connected => { s with state := .closing }
  | .connecting => { s with state := .unconnected }
  | _ => s

/-- Bytes reach the socket. -/
def receive (chunk : QByteArray) (s : TcpSocket) : TcpSocket :=
  { s with unread := s.unread ++ chunk }

/-- Everything unread is handed over. -/
def drained (s : TcpSocket) : TcpSocket := { s with unread := [] }

/-- Bytes arrive on an open connection. -/
def IsOpen (s : TcpSocket) : Prop := s.state = .connected ∨ s.state = .closing

instance (s : TcpSocket) : Decidable s.IsOpen := inferInstanceAs (Decidable (_ ∨ _))

end TcpSocket

end QtAppBase.Qt
