import EmacPsDma.Basic
import EmacPsDma.Tx.Driver
import EmacPsDma.Tx.Invariant
import EmacPsDma.Tx.Queue
import EmacPsDma.Tx.Interleaving
import EmacPsDma.Tx.Length
import EmacPsDma.Rx.Filter
import EmacPsDma.Rx.Driver
import EmacPsDma.Rx.Invariant
import EmacPsDma.Rx.CheckRx
import EmacPsDma.Rx.Run
import EmacPsDma.Rx.Statements
import EmacPsDma.Rx.Delivery
import EmacPsDma.Rx.Interleaving
import EmacPsDma.Rx.Unlinked
import EmacPsDma.Control
import EmacPsDma.System
import EmacPsDma.InitDma
