import Libusual.Heap
import Libusual.Tls.X509
import Libusual.Tls.Name
import Libusual.Tls.CertInfo
import Libusual.Tls.AltNames
import Libusual.Tls.Time
import Libusual.Tls.Serial
import Libusual.Tls.PeerCert
import Libusual.Socket.FdSet
import Libusual.Socket.Poll
import Libusual.Socket.Winsock
import Libusual.Socket.Addr
import Libusual.Socket.SocketPair
import Libusual.Socket.Setup
import Libusual.Socket.WinsockPoll
